/-
  Ambient/Proofs/InterruptedBuilds.lean
  =====================================
  **What a build that fails leaves of the documentation.**

  The two faults of documentation come up at different times.  A class name that cannot be declared
  is found before anything is built, so the documentation is as it was.  A class that is no
  constructor is found where the walk comes to it, and by then the parameters of the root classes
  and of the classes in front of it have their constant types (`Walk.passClasses_schema_of_stop`).
  Nothing takes these back.  So such a build leaves the documentation as it was exactly if it gave
  none of these parameters another type than it had (`Build.interrupted_build_schema`).
-/
import Ambient.Proofs.BuildFailure
import Ambient.Proofs.Rebuild

namespace Ambient

/-! ### Documentation that keeps its types -/

theorem map_eq_self_iff {α : Type} {f : α → α} {l : List α} :
    l.map f = l ↔ ∀ a ∈ l, f a = a := by
  have hid : l.map f = l.map id ↔ ∀ a ∈ l, f a = id a := List.map_inj_left
  rwa [List.map_id] at hid

namespace Settings

/-- Whether a build leaves all of some parameters with the types they have. -/
def Keeps (s : Settings) (params : List (Text × Param)) : Prop :=
  ∀ q ∈ params, s.retype q.1 q.2 = q.2

variable {s : Settings}

theorem keeps_append {params more : List (Text × Param)} :
    s.Keeps (params ++ more) ↔ s.Keeps params ∧ s.Keeps more :=
  List.forall_mem_append

theorem keeps_flatMap {α : Type} {f : α → List (Text × Param)} {l : List α} :
    s.Keeps (l.flatMap f) ↔ ∀ a ∈ l, s.Keeps (f a) :=
  List.forall_mem_flatMap

theorem retypeSignature_eq_self_iff {member : Text} {sig : Signature} :
    s.retypeSignature member sig = sig ↔ s.Keeps (sig.memberParams member) := by
  have hparams : s.Keeps (sig.memberParams member) ↔ sig.params.map (s.retype member) =
      sig.params := by
    rw [map_eq_self_iff]
    exact List.forall_mem_map
  rw [hparams]
  constructor
  · intro h
    exact congrArg Signature.params h
  · intro h
    rw [retypeSignature, h]

theorem retypeEntry_eq_self_iff {e : Entry} : s.retypeEntry e = e ↔ s.Keeps e.memberParams := by
  have hsignatures : s.Keeps e.memberParams ↔
      e.signatures.map (s.retypeSignature e.name) = e.signatures := by
    simp only [Entry.memberParams, keeps_flatMap, map_eq_self_iff, retypeSignature_eq_self_iff]
  rw [hsignatures]
  constructor
  · intro h
    have hbehind := s.signatures_retypeEntry e
    rw [h] at hbehind
    exact hbehind.symm
  · intro h
    rw [retypeEntry, h, Entry.withSignatures_signatures]

theorem retypeItem_eq_self_iff {item : ItemDoc} :
    s.retypeItem item = item ↔ s.Keeps item.memberParams := by
  by_cases hk : item.kind = .method
  · simp only [retypeItem, ItemDoc.memberParams, if_pos hk]
    rw [← retypeEntry_eq_self_iff]
    constructor
    · intro h
      exact congrArg ItemDoc.toEntry h
    · intro h
      rw [h]
  · simp only [retypeItem, ItemDoc.memberParams, if_neg hk, true_iff]
    exact fun _ h => absurd h List.not_mem_nil

theorem retypeInfo_eq_self_iff {info : ClassDoc} :
    s.retypeInfo info = info ↔ s.Keeps info.toEntry.memberParams := by
  rw [← retypeEntry_eq_self_iff]
  constructor
  · intro h
    exact congrArg ClassDoc.toEntry h
  · intro h
    rw [retypeInfo, h]

theorem keeps_itemParams_iff {schema : Schema} {name : Text} :
    s.Keeps (schema.itemParams name) ↔
      (schema.itemsFor name).map s.retypeItem = schema.itemsFor name := by
  simp only [Schema.itemParams, keeps_flatMap, map_eq_self_iff, retypeItem_eq_self_iff]

theorem keeps_classParams_iff {schema : Schema} {name : Text} :
    s.Keeps (schema.classParams name) ↔
      s.retypeSubclass (schema.about name) = schema.about name := by
  unfold Schema.classParams Schema.about
  cases schema.classes.get? name with
  | none =>
    refine iff_of_true ?_ rfl
    exact fun _ h => absurd h List.not_mem_nil
  | some info =>
    simp only [keeps_append, keeps_itemParams_iff, retypeSubclass, Prod.mk.injEq,
      Option.some.injEq, retypeInfo_eq_self_iff]

/-- Constant types for some classes leave the documentation as it is exactly if none of their
    parameters is given another type. -/
theorem retypeSchema_eq_self_iff {schema : Schema} {aliases classes : List Text}
    (ha : aliases.Nodup) (hc : classes.Nodup) (hd : ∀ name ∈ classes, name ∉ aliases) :
    s.retypeSchema aliases classes schema = schema ↔
      s.Keeps (aliases.flatMap schema.itemParams ++ classes.flatMap schema.classParams) := by
  rw [keeps_append, keeps_flatMap, keeps_flatMap]
  constructor
  · intro h
    obtain ⟨haliases, hclasses⟩ := Build.about_retypeSchema_of_nodup s schema ha hc hd
    rw [h] at haliases hclasses
    constructor
    · intro name hname
      exact keeps_itemParams_iff.2 (congrArg Prod.snd (haliases name hname)).symm
    · intro name hname
      exact keeps_classParams_iff.2 (hclasses name hname).symm
  · rintro ⟨haliases, hclasses⟩
    have hroot : aliases.foldl s.retypeItemsOf schema = schema := by
      apply foldl_eq_self
      intro name hname
      exact retypeItemsOf_eq_self (keeps_itemParams_iff.1 (haliases name hname)).symm
    rw [retypeSchema, hroot]
    apply foldl_eq_self
    intro name hname
    exact retypeClass_eq_self (keeps_classParams_iff.1 (hclasses name hname)).symm

end Settings

/-! ### Walks that stop -/

/-- A walk that stops at a class has given constant types in the classes in front of it. -/
theorem Walk.passClasses_schema_of_stop {w : Walk} {before after : List Text} {className : Text}
    (hbefore : ∀ name ∈ before, w.schema.stop? name = none)
    (hstop : w.schema.stop? className ≠ none) :
    (w.passClasses (before ++ className :: after)).2.schema =
      before.foldl w.context.settings.retypeClass w.schema := by
  induction before generalizing w with
  | nil =>
    rw [ne_eq, Schema.stop?_eq_none_iff, Schema.HasConstructor] at hstop
    push Not at hstop
    obtain ⟨info, hinfo, hc⟩ := hstop
    simp only [List.nil_append, passClasses, hinfo, if_neg hc, List.foldl_nil]
  | cons first rest ih =>
    obtain ⟨hfirst, hrest⟩ := List.forall_mem_cons.1 hbefore
    rw [List.cons_append, List.foldl_cons]
    cases hinfo : w.schema.classes.get? first with
    | none =>
      have hskip : w.context.settings.retypeClass w.schema first = w.schema := by
        simp only [Settings.retypeClass, hinfo]
      rw [passClasses_cons_none hinfo, hskip]
      exact ih hrest hstop
    | some info =>
      have hc := Schema.stop?_eq_none_iff.1 hfirst info hinfo
      -- constant types do not change where the walk stops
      have hpassed : (w.passClass first info).schema.stop? = w.schema.stop? := by
        funext other
        rw [passClass_schema hinfo, Settings.stop?_retypeClass]
      rw [passClasses_cons_some hinfo hc, ih, passClass_schema hinfo, (passClass_past hinfo).settings]
      · rw [hpassed]
        exact hrest
      · rw [hpassed]
        exact hstop

/-! ### Builds that fail -/

namespace Build

variable {settings : Settings} {schema : Schema}

theorem schema_of_partition_fails {e : BuildError}
    (h : settings.partition schema.classNames = .error e) :
    (run settings schema).schema = schema := by
  simp only [run, h]

theorem schema_of_stop {aliases before after : List Text} {className : Text}
    (h : settings.partition schema.classNames = .ok (aliases, before ++ className :: after))
    (hbefore : ∀ name ∈ before, schema.stop? name = none)
    (hstop : schema.stop? className ≠ none) :
    (run settings schema).schema = settings.retypeSchema aliases before schema := by
  let w := (Walk.start settings schema).passAliases aliases
  have hparts := Settings.parts_of_partition h
  have hsettings : w.context.settings = settings :=
    ((Walk.start settings schema).passAliases_past hparts.aliases_nodup).settings
  have hsame : w.schema.stop? = schema.stop? := by
    funext name
    simp only [Schema.stop?, w, Walk.classes_passAliases]
    rfl
  have hrun : (run settings schema).schema =
      (w.passClasses (before ++ className :: after)).2.schema := by
    simp only [run, h, w]
  rw [hrun, Walk.passClasses_schema_of_stop (by rwa [hsame]) (by rwa [hsame]), hsettings,
    Walk.passAliases_schema]
  rfl

/-- **What a failed build leaves.**  A class name that cannot be declared is refused while the
    documentation is as it was.  A class that is no constructor is refused when the parameters of
    the root classes, and of the classes of the namespace in front of it, have their constant
    types; the documentation is then as it was exactly if none of them was given another type. -/
theorem interrupted_build_schema {e : BuildError} (h : (run settings schema).result = .error e) :
    (∀ className root, e = .undeclarable className root → (run settings schema).schema = schema) ∧
    ∀ name, e = .notConstructor name →
      ∃ aliases before className after info,
        settings.partition schema.classNames = .ok (aliases, before ++ className :: after) ∧
        schema.classes.get? className = some info ∧ info.name = name ∧
        info.isConstructor = false ∧ (∀ other ∈ before, schema.HasConstructor other) ∧
        (run settings schema).schema = settings.retypeSchema aliases before schema ∧
        ((run settings schema).schema = schema ↔
          settings.Keeps
            (aliases.flatMap schema.itemParams ++ before.flatMap schema.classParams)) := by
  cases hpartition : settings.partition schema.classNames with
  | error fault =>
    obtain ⟨-, className, -, -, -, -, rfl⟩ := Settings.partition_fails_iff.1 hpartition
    have hsame : e = .undeclarable className settings.rootName :=
      (Except.error.inj ((run_of_partition_fails hpartition).symm.trans h)).symm
    subst hsame
    constructor
    · intro _ _ _
      exact schema_of_partition_fails hpartition
    · intro _ hname
      cases hname
  | ok parts =>
    obtain ⟨aliases, classes⟩ := parts
    obtain ⟨before, className, after, rfl, hstop, hbefore⟩ :=
      List.findSome?_eq_some_iff.1 ((run_fails_iff_of_partition hpartition e).1 h)
    -- what stops the walk is a class that is documented, and no constructor
    have hclass : ∃ info, schema.classes.get? className = some info ∧
        info.isConstructor = false ∧ e = .notConstructor info.name := by
      unfold Schema.stop? at hstop
      cases hinfo : schema.classes.get? className with
      | none =>
        rw [hinfo] at hstop
        exact nomatch hstop
      | some info =>
        simp only [hinfo, Option.ite_none_left_eq_some, Option.some.injEq] at hstop
        exact ⟨info, rfl, Bool.eq_false_iff.2 hstop.1, hstop.2.symm⟩
    obtain ⟨info, hinfo, hconstructor, rfl⟩ := hclass
    constructor
    · intro _ _ hname
      cases hname
    · intro name hname
      cases hname
      have hparts := Settings.parts_of_partition hpartition
      have hschema := schema_of_stop hpartition hbefore (hstop ▸ Option.some_ne_none _)
      refine ⟨aliases, before, className, after, info, rfl, hinfo, rfl, hconstructor, ?_,
        hschema, ?_⟩
      · intro other hother
        exact Schema.stop?_eq_none_iff.1 (hbefore other hother)
      · rw [hschema]
        -- only the classes in front were passed, so these are the ones that must keep their types
        apply Settings.retypeSchema_eq_self_iff hparts.aliases_nodup
        · exact (List.nodup_append.1 hparts.classes_nodup).1
        · intro other hother
          exact hparts.disjoint other (List.mem_append_left _ hother)

/-! ### Documentation that is left as it was, and documentation that is not -/

def alignItem : ItemDoc :=
  ⟨⟨⟨[⟨"horizAlign", some "Constant", false, "either LEFT or RIGHT"⟩], none, false, false, none⟩,
    "src/attributes.js", [], false, none, "textAlign"⟩, "p5", .method, none, none, false⟩

/-- A root class with a constant type, and a class of the namespace without a constructor. -/
def alignSchema : Schema :=
  ⟨.ofList [("p5", plainClass "p5"), ("p5.Vector", plainClass "p5.Vector")], [alignItem]⟩

theorem partition_vectorSchema :
    Settings.standard.partition vectorSchema.classNames = .ok (["p5"], ["p5.Vector"]) :=
  rfl

theorem partition_alignSchema :
    Settings.standard.partition alignSchema.classNames = .ok (["p5"], ["p5.Vector"]) :=
  rfl

theorem run_alignSchema :
    (run .standard alignSchema).result = .error (.notConstructor "p5.Vector") :=
  (run_fails_iff_of_partition partition_alignSchema _).2 (by decide)

/-- What comes of the name `Frob` and of the class `p5.Vector`, without and with an item in front
    of it that has a constant type. -/
theorem interrupted_build_schema_align :
    (run .standard frobSchema).schema = frobSchema ∧
      (run .standard vectorSchema).schema = vectorSchema ∧
      (run .standard alignSchema).schema ≠ alignSchema := by
  have hnames : frobSchema.classNames =
      [("p5" : Text), "p5.Vector"] ++ ("Frob" : Text) :: [("Frob.Nub" : Text)] := by decide
  have hfrob : (run .standard frobSchema).result = .error (.undeclarable "Frob" "p5") :=
    run_fails_of_undeclarable hnames (by decide) (by decide)
  have hvector : (run .standard vectorSchema).result = .error (.notConstructor "Vector") :=
    (run_fails_iff_of_partition partition_vectorSchema _).2 (by decide +kernel)
  refine ⟨(interrupted_build_schema hfrob).1 _ _ rfl, ?_, ?_⟩
  · obtain ⟨aliases, before, className, after, info, hpartition, -, -, -, -, -, hiff⟩ :=
      (interrupted_build_schema hvector).2 _ rfl
    rw [partition_vectorSchema] at hpartition
    obtain ⟨rfl, hclasses⟩ := Prod.mk.inj (Except.ok.inj hpartition)
    rcases List.append_eq_singleton_iff.1 hclasses.symm with ⟨rfl, -⟩ | ⟨-, hnil⟩
    · exact hiff.2 fun q hq => absurd hq List.not_mem_nil
    · cases hnil
  · obtain ⟨aliases, before, className, after, info, hpartition, -, -, -, -, -, hiff⟩ :=
      (interrupted_build_schema run_alignSchema).2 _ rfl
    rw [partition_alignSchema] at hpartition
    obtain ⟨rfl, -⟩ := Prod.mk.inj (Except.ok.inj hpartition)
    intro hsame
    have hkept := hiff.1 hsame ("textAlign", ⟨"horizAlign", some "Constant", false,
      "either LEFT or RIGHT"⟩) (List.mem_append_left _ (by decide +kernel))
    exact absurd hkept (by decide +kernel)

/-- The build of `p5.Vector` fails, and the parameter in front of it is left with another type. -/
theorem interrupted_build_changes :
    (run .standard alignSchema).result = .error (.notConstructor "p5.Vector") ∧
      (run .standard alignSchema).schema ≠ alignSchema := by
  refine ⟨run_alignSchema, ?_⟩
  intro hsame
  have htypes : (run .standard alignSchema).schema.items.flatMap (fun item =>
      item.params.map Param.type) = [some ("HORIZ_ALIGN" : Text)] := by decide +kernel
  rw [hsame] at htypes
  exact absurd htypes (by decide +kernel)

end Build

end Ambient
