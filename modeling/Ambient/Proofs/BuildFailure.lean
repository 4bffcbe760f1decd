/-
  Ambient/Proofs/BuildFailure.lean
  ================================
  **When documentation cannot be built.**

  A build fails for two reasons only, and they come up in two phases.  Before anything is built,
  the first class name is refused that is neither one of the root nor of the form of the namespace
  (`Settings.partition_fails_iff`).  Then the walk past the classes of the namespace stops at the
  first one that is not documented as a constructor (`Walk.passClasses_stops`).  The walk has
  changed the documentation by then, but never what a class is called or whether it is a
  constructor, so the class that stops it is found in the documentation as it was given.

  A run that fails for such a reason has not asked its machine for anything.
-/
import Ambient.Proofs.BuildWalk
import Ambient.Run.Generate

namespace Ambient

/-! ### Names of classes -/

namespace Settings

/-- Whether a class name is the root, a dot, and a name that is not empty and holds no dot. -/
def HasNamespaceForm (s : Settings) (className : Text) : Prop :=
  ∃ name, className = s.qualified name ∧ name ≠ [] ∧ CodePoint.scalar '.' ∉ name

def Undeclarable (s : Settings) (className : Text) : Prop :=
  className ∉ s.aliases ∧ ¬ s.HasNamespaceForm className

def IsSubclass (s : Settings) (className : Text) : Prop :=
  className ∉ s.aliases ∧ s.HasNamespaceForm className

variable {s : Settings}

theorem isSome_subclassName?_iff {className : Text} :
    (s.subclassName? className).isSome = true ↔ s.HasNamespaceForm className := by
  rw [Option.isSome_iff_exists]
  exact exists_congr fun name => subclassName?_eq_some_iff

instance (s : Settings) (className : Text) : Decidable (s.HasNamespaceForm className) :=
  decidable_of_iff _ isSome_subclassName?_iff

instance (s : Settings) (className : Text) : Decidable (s.Undeclarable className) :=
  inferInstanceAs (Decidable (_ ∧ _))

instance (s : Settings) (className : Text) : Decidable (s.IsSubclass className) :=
  inferInstanceAs (Decidable (_ ∧ _))

theorem partition_fails_of_undeclarable {name : Text} (h : s.Undeclarable name)
    (rest : List Text) : s.partition (name :: rest) = .error (.undeclarable name s.rootName) := by
  have hname : ¬ s.aliases.contains name = true := mt List.contains_iff_mem.1 h.1
  have hform : ¬ (s.subclassName? name).isSome = true := mt isSome_subclassName?_iff.1 h.2
  simp only [partition, if_neg hname, if_neg hform]

theorem partition_fails_cons {name : Text} (h : ¬ s.Undeclarable name) (rest : List Text)
    (e : BuildError) : s.partition (name :: rest) = .error e ↔ s.partition rest = .error e := by
  have hmap : ∀ f : List Text × List Text → List Text × List Text,
      (s.partition rest).map f = .error e ↔ s.partition rest = .error e := by
    intro f
    cases s.partition rest with
    | error e' => simp [Except.map]
    | ok parts => simp [Except.map]
  by_cases hname : s.aliases.contains name = true
  · simp only [partition, if_pos hname]
    exact hmap _
  · have hform : s.HasNamespaceForm name := by
      by_contra hform
      exact h ⟨mt List.contains_iff_mem.2 hname, hform⟩
    simp only [partition, if_neg hname, if_pos (isSome_subclassName?_iff.2 hform)]
    exact hmap _

/-- The first name that cannot be declared is the one that is refused. -/
theorem partition_fails_iff {names : List Text} {e : BuildError} :
    s.partition names = .error e ↔
      ∃ before name after, names = before ++ name :: after ∧
        (∀ other ∈ before, ¬ s.Undeclarable other) ∧ s.Undeclarable name ∧
        e = .undeclarable name s.rootName := by
  induction names with
  | nil => simp [partition]
  | cons first rest ih =>
    -- the first name is refused itself, or it stands in front of the one that is
    by_cases hfirst : s.Undeclarable first
    · rw [partition_fails_of_undeclarable hfirst]
      constructor
      · intro he
        exact ⟨[], first, rest, rfl, by simp, hfirst, (Except.error.inj he).symm⟩
      · rintro ⟨before, name, after, hnames, hbefore, -, rfl⟩
        rcases before with _ | ⟨other, before⟩
        · cases hnames
          rfl
        · cases hnames
          exact absurd hfirst (hbefore _ List.mem_cons_self)
    · rw [partition_fails_cons hfirst, ih]
      constructor
      · rintro ⟨before, name, after, rfl, hbefore, hname, rfl⟩
        refine ⟨first :: before, name, after, rfl, ?_, hname, rfl⟩
        rw [List.forall_mem_cons]
        exact ⟨hfirst, hbefore⟩
      · rintro ⟨before, name, after, hnames, hbefore, hname, rfl⟩
        rcases before with _ | ⟨other, before⟩
        · cases hnames
          exact absurd hname hfirst
        · cases hnames
          exact ⟨before, name, after, rfl, (List.forall_mem_cons.1 hbefore).2, hname, rfl⟩

end Settings

/-! ### Classes that stop a walk -/

def Schema.stop? (schema : Schema) (className : Text) : Option BuildError :=
  match schema.classes.get? className with
  | none => none
  | some info => if info.isConstructor then none else some (.notConstructor info.name)

theorem Schema.stop?_eq_none_iff {schema : Schema} {className : Text} :
    schema.stop? className = none ↔ schema.HasConstructor className := by
  unfold Schema.stop? Schema.HasConstructor
  cases schema.classes.get? className with
  | none => simp
  | some info => simp

namespace Settings

/-- Constant types make no difference to what stops a walk. -/
theorem stop?_retypeClass (s : Settings) (schema : Schema) (className other : Text) :
    (s.retypeClass schema className).stop? other = schema.stop? other := by
  simp only [Schema.stop?, get?_retypeClass]
  by_cases h : other = className
  · rw [if_pos h]
    cases schema.classes.get? other with
    | none => rfl
    | some info =>
      have hname : (s.retypeInfo info).name = info.name := s.name_retypeEntry info.toEntry
      simp only [Option.map_some, isConstructor_retypeInfo, hname]
  · rw [if_neg h]

end Settings

namespace Walk

/-- A walk stops at the first class that the documentation stops it at. -/
theorem passClasses_stops (w : Walk) (names : List Text) :
    (w.passClasses names).1 = names.findSome? w.schema.stop? := by
  induction names generalizing w with
  | nil => rfl
  | cons className rest ih =>
    rw [List.findSome?_cons]
    cases h : w.schema.classes.get? className with
    | none =>
      have hhere : w.schema.stop? className = none := by simp only [Schema.stop?, h]
      rw [passClasses_cons_none h, hhere, ih]
    | some info =>
      by_cases hc : info.isConstructor = true
      · have hhere : w.schema.stop? className = none := by
          simp only [Schema.stop?, h, hc, if_true]
        have hpassed : (w.passClass className info).schema.stop? = w.schema.stop? := by
          funext other
          rw [passClass_schema h, Settings.stop?_retypeClass]
        rw [passClasses_cons_some h hc, hhere, ih, hpassed]
      · simp only [passClasses, Schema.stop?, h, if_neg hc]

theorem classes_passAliases (w : Walk) (names : List Text) :
    (w.passAliases names).schema.classes = w.schema.classes := by
  rw [passAliases_schema]
  generalize w.schema = schema
  induction names generalizing schema with
  | nil => rfl
  | cons name rest ih =>
    rw [List.foldl_cons, ih]
    rfl

theorem through_stops (settings : Settings) (schema : Schema) (aliases classes : List Text) :
    (through settings schema aliases classes).1 = classes.findSome? schema.stop? := by
  have hstop : ((start settings schema).passAliases aliases).schema.stop? = schema.stop? := by
    funext name
    simp only [Schema.stop?, classes_passAliases]
    rfl
  rw [through, passClasses_stops, hstop]

end Walk

/-! ### Whole builds -/

namespace Build

variable {settings : Settings} {schema : Schema}

theorem run_of_partition_fails {e : BuildError}
    (h : settings.partition schema.classNames = .error e) :
    (run settings schema).result = .error e := by
  simp only [run, h]

/-- Behind a parting that succeeds, a build fails only where its walk stops. -/
theorem run_fails_iff_of_partition {aliases classes : List Text}
    (h : settings.partition schema.classNames = .ok (aliases, classes)) (e : BuildError) :
    (run settings schema).result = .error e ↔ classes.findSome? schema.stop? = some e := by
  rw [← Walk.through_stops settings schema aliases classes, Walk.through]
  simp only [run, h]
  cases (((Walk.start settings schema).passAliases aliases).passClasses classes).1 with
  | none => simp
  | some e' => simp

/-- The classes are not parted, or those of the namespace are the ones that are no further names
    of the root. -/
theorem partition_cases (settings : Settings) (schema : Schema) :
    (∃ e, settings.partition schema.classNames = .error e) ∨
      ∃ aliases, settings.partition schema.classNames =
        .ok (aliases, schema.classNames.filter (· ∉ settings.aliases)) := by
  cases hpartition : settings.partition schema.classNames with
  | error e => exact Or.inl ⟨e, rfl⟩
  | ok parts =>
    obtain ⟨aliases, classes⟩ := parts
    obtain ⟨-, rfl⟩ := Settings.partition_eq_ok hpartition
    exact Or.inr ⟨aliases, rfl⟩

/-- With names that can all be declared, the classes of the namespace are walked past. -/
theorem exists_partition (h : ∀ name ∈ schema.classNames, ¬ settings.Undeclarable name) :
    ∃ aliases, settings.partition schema.classNames =
      .ok (aliases, schema.classNames.filter (· ∉ settings.aliases)) := by
  rcases partition_cases settings schema with ⟨e, hfails⟩ | hparts
  · obtain ⟨before, name, after, hnames, -, hname, -⟩ := Settings.partition_fails_iff.1 hfails
    exact absurd hname (h name (hnames ▸ List.mem_append_right _ List.mem_cons_self))
  · exact hparts

/-- A first name that cannot be declared is what a build fails of, whatever the classes are. -/
theorem run_fails_of_undeclarable {before after : List Text} {name : Text}
    (hnames : schema.classNames = before ++ name :: after) (hname : settings.Undeclarable name)
    (hbefore : ∀ other ∈ before, ¬ settings.Undeclarable other) :
    (run settings schema).result = .error (.undeclarable name settings.rootName) := by
  apply run_of_partition_fails
  rw [Settings.partition_fails_iff]
  exact ⟨before, name, after, hnames, hbefore, hname, rfl⟩

/-- Otherwise a first class of the namespace that is no constructor is. -/
theorem run_fails_of_notConstructor {before after : List Text} {name : Text} {info : ClassDoc}
    (hall : ∀ name ∈ schema.classNames, ¬ settings.Undeclarable name)
    (hnames : schema.classNames = before ++ name :: after)
    (hinfo : schema.classes.get? name = some info) (hname : settings.IsSubclass name)
    (hconstructor : info.isConstructor = false)
    (hbefore : ∀ other ∈ before, settings.IsSubclass other → schema.HasConstructor other) :
    (run settings schema).result = .error (.notConstructor info.name) := by
  obtain ⟨aliases, hpartition⟩ := exists_partition hall
  have hkept : decide (name ∉ settings.aliases) = true := decide_eq_true hname.1
  rw [run_fails_iff_of_partition hpartition, hnames, List.filter_append, List.filter_cons,
    if_pos hkept, List.findSome?_append]
  have hnone : (before.filter (· ∉ settings.aliases)).findSome? schema.stop? = none := by
    rw [List.findSome?_eq_none_iff]
    intro other hother
    obtain ⟨hmem, halias⟩ := List.mem_filter.1 hother
    have hsub : settings.IsSubclass other := by
      refine ⟨of_decide_eq_true halias, ?_⟩
      by_contra hform
      exact hall other (hnames ▸ List.mem_append_left _ hmem) ⟨of_decide_eq_true halias, hform⟩
    exact Schema.stop?_eq_none_iff.2 (hbefore other hmem hsub)
  have hhere : schema.stop? name = some (.notConstructor info.name) := by
    simp [Schema.stop?, hinfo, hconstructor]
  rw [hnone, Option.none_or, List.findSome?_cons, hhere]

theorem run_fails_of_mem_undeclarable {name : Text} (hmem : name ∈ schema.classNames)
    (hname : settings.Undeclarable name) : ∃ e, (run settings schema).result = .error e := by
  rcases partition_cases settings schema with ⟨e, hfails⟩ | ⟨aliases, hpartition⟩
  · exact ⟨e, run_of_partition_fails hfails⟩
  · have hclass : name ∈ schema.classNames.filter (· ∉ settings.aliases) :=
      List.mem_filter.2 ⟨hmem, decide_eq_true hname.1⟩
    have hform := Settings.isSome_of_partition hpartition name hclass
    exact absurd (Settings.isSome_subclassName?_iff.1 hform) hname.2

theorem run_fails_of_mem_notConstructor {name : Text} {info : ClassDoc}
    (hinfo : schema.classes.get? name = some info) (hname : settings.IsSubclass name)
    (hconstructor : info.isConstructor = false) :
    ∃ e, (run settings schema).result = .error e := by
  rcases partition_cases settings schema with ⟨e, hfails⟩ | ⟨aliases, hpartition⟩
  · exact ⟨e, run_of_partition_fails hfails⟩
  · have hclass : name ∈ schema.classNames.filter (· ∉ settings.aliases) :=
      List.mem_filter.2 ⟨Table.mem_keys_iff.2 ⟨info, hinfo⟩, decide_eq_true hname.1⟩
    have hstop : (schema.stop? name).isSome = true := by
      simp [Schema.stop?, hinfo, hconstructor]
    obtain ⟨e, he⟩ := Option.isSome_iff_exists.1
      (List.findSome?_isSome_iff.2 ⟨name, hclass, hstop⟩)
    exact ⟨e, (run_fails_iff_of_partition hpartition e).2 he⟩

/-- There is no third reason. -/
theorem reason_of_run_fails {e : BuildError} (h : (run settings schema).result = .error e) :
    (∃ name ∈ schema.classNames, settings.Undeclarable name) ∨
      ∃ name info, schema.classes.get? name = some info ∧ settings.IsSubclass name ∧
        info.isConstructor = false := by
  by_cases hall : ∀ name ∈ schema.classNames, ¬ settings.Undeclarable name
  · right
    obtain ⟨aliases, hpartition⟩ := exists_partition hall
    rw [run_fails_iff_of_partition hpartition] at h
    obtain ⟨name, hname, hstop⟩ := List.exists_of_findSome?_eq_some h
    obtain ⟨hmem, halias⟩ := List.mem_filter.1 hname
    obtain ⟨info, hinfo⟩ := Table.mem_keys_iff.1 hmem
    refine ⟨name, info, hinfo, ⟨of_decide_eq_true halias, ?_⟩, ?_⟩
    · by_contra hform
      exact hall name hmem ⟨of_decide_eq_true halias, hform⟩
    · simp only [Schema.stop?, hinfo, Option.ite_none_left_eq_some] at hstop
      exact Bool.eq_false_iff.2 hstop.1
  · left
    push Not at hall
    exact hall

end Build

/-! ### Runs -/

def Failure.isOfWriting : Failure → Bool
  | path _ | unwritable _ | unencodable _ | sheet _ => true
  | _ => false

namespace World

variable {ε α β : Type}

/-- Whether an action on a world fails only in its writing. -/
def OnlyWrites (action : StateM World (Except Failure α)) : Prop :=
  ∀ world f, (action world).1 = .error f → f.isOfWriting = true

theorem onlyWrites_ok (a : α) : OnlyWrites (pure (.ok a) : StateM World (Except Failure α)) := by
  intro _ f hf
  cases hf

theorem onlyWrites_error {f : Failure} (h : f.isOfWriting = true) :
    OnlyWrites (pure (.error f) : StateM World (Except Failure α)) := by
  intro _ g hg
  cases hg
  exact h

/-- One action behind another one that may fail. -/
theorem onlyWrites_bind {action : StateM World (Except ε α)}
    {next : Except ε α → StateM World (Except Failure β)}
    (herror : ∀ world e, (action world).1 = .error e → OnlyWrites (next (.error e)))
    (hok : ∀ a, OnlyWrites (next (.ok a))) : OnlyWrites (action >>= next) := by
  intro world f hf
  change (next (action world).1 (action world).2).1 = .error f at hf
  cases hresult : (action world).1 with
  | error e =>
    rw [hresult] at hf
    exact herror world e hresult _ f hf
  | ok a =>
    rw [hresult] at hf
    exact hok a _ f hf

theorem onlyWrites_onPath (path : Path) (writing : StateM World (Except FileFault α)) :
    OnlyWrites (Host.onPath path writing) := by
  unfold Host.onPath
  cases path.fault? with
  | some f => exact onlyWrites_error rfl
  | none =>
    apply onlyWrites_bind
    · intro _ e _
      exact onlyWrites_error rfl
    · exact onlyWrites_ok

theorem onlyWrites_writeText (path : Path) (t : Text) : OnlyWrites (host.writeText path t) := by
  unfold Host.writeText
  apply onlyWrites_bind
  · intro world e he
    exact onlyWrites_error (onlyWrites_onPath _ _ world e he)
  · intro _
    apply onlyWrites_bind
    · intro world e he
      exact onlyWrites_error (onlyWrites_onPath _ _ world e he)
    · intro _
      cases Utf8.encode t with
      | error f => exact onlyWrites_error rfl
      | ok bytes => exact onlyWrites_ok _

theorem onlyWrites_writeForm (path : Path) (form : Except SheetError Sheet) :
    OnlyWrites (host.writeForm path form) := by
  cases form with
  | error e => exact onlyWrites_error rfl
  | ok sheet => exact onlyWrites_writeText path sheet.text

theorem onlyWrites_writeModel (settings : Settings) (directory : Path) (model : Model) :
    OnlyWrites (host.writeModel settings directory model) := by
  unfold Host.writeModel
  apply onlyWrites_bind
  · intro world e he
    exact onlyWrites_error (onlyWrites_writeForm _ _ world e he)
  · intro _
    apply onlyWrites_bind
    · intro world e he
      exact onlyWrites_error (onlyWrites_writeForm _ _ world e he)
    · intro _
      exact onlyWrites_ok _

end World

namespace Host

/-- A run over documentation that cannot be built asks for nothing. -/
theorem generate_of_run_fails {m : Type → Type} [Monad m] (h : Host m) {settings : Settings}
    {schema : Schema} {e : BuildError} (he : (Build.run settings schema).result = .error e)
    (directory : Path) :
    h.generate settings directory schema =
      pure ⟨(Build.run settings schema).passedOver.map .passedOver,
        .error (.schema (.build e))⟩ := by
  simp only [generate, he]

end Host

namespace World

/-- A run that fails of its documentation fails of what cannot be built. -/
theorem run_fails_of_generate {settings : Settings} {directory : Path} {schema : Schema}
    {world : World} {fault : SchemaFault}
    (h : (host.generate settings directory schema world).1.result = .error (.schema fault)) :
    ∃ e, fault = .build e ∧ (Build.run settings schema).result = .error e := by
  cases hrun : (Build.run settings schema).result with
  | error e =>
    rw [host.generate_of_run_fails hrun] at h
    cases h
    exact ⟨e, rfl, rfl⟩
  | ok model =>
    have hwriting := onlyWrites_writeModel settings directory model world
    simp only [Host.generate, hrun, bind, StateT.bind] at h
    revert h hwriting
    rcases host.writeModel settings directory model world with ⟨f | report, world'⟩
    · intro hwriting h
      cases h
      exact nomatch hwriting _ rfl
    · exact nofun

end World

namespace Build

/-- **When generation fails.**  A build fails exactly if some class name cannot be declared or
    some class of the namespace is no constructor: in the first case of the first such name,
    otherwise of the first such class.  A run whose documentation is refused leaves the world as
    it was. -/
theorem fails_iff (settings : Settings) (schema : Schema) :
    ((∃ e, (run settings schema).result = .error e) ↔
      (∃ name ∈ schema.classNames, settings.Undeclarable name) ∨
        ∃ name info, schema.classes.get? name = some info ∧ settings.IsSubclass name ∧
          info.isConstructor = false) ∧
    (∀ before name after, schema.classNames = before ++ name :: after →
      settings.Undeclarable name → (∀ other ∈ before, ¬ settings.Undeclarable other) →
      (run settings schema).result = .error (.undeclarable name settings.rootName)) ∧
    ((∀ name ∈ schema.classNames, ¬ settings.Undeclarable name) →
      ∀ before name after info, schema.classNames = before ++ name :: after →
        schema.classes.get? name = some info → settings.IsSubclass name →
        info.isConstructor = false →
        (∀ other ∈ before, settings.IsSubclass other → schema.HasConstructor other) →
        (run settings schema).result = .error (.notConstructor info.name)) ∧
    ∀ (world : World) (directory : Path) (fault : SchemaFault),
      ((World.host.generate settings directory schema world).1.result = .error (.schema fault) ↔
        ∃ e, fault = .build e ∧ (run settings schema).result = .error e) ∧
      ((World.host.generate settings directory schema world).1.result = .error (.schema fault) →
        (World.host.generate settings directory schema world).2 = world) := by
  refine ⟨⟨?_, ?_⟩, ?_, ?_, ?_⟩
  · rintro ⟨e, he⟩
    exact reason_of_run_fails he
  · rintro (⟨name, hmem, hname⟩ | ⟨name, info, hinfo, hname, hconstructor⟩)
    · exact run_fails_of_mem_undeclarable hmem hname
    · exact run_fails_of_mem_notConstructor hinfo hname hconstructor
  · intro before name after hnames hname hbefore
    exact run_fails_of_undeclarable hnames hname hbefore
  · intro hall before name after info hnames hinfo hname hconstructor hbefore
    exact run_fails_of_notConstructor hall hnames hinfo hname hconstructor hbefore
  · intro world directory fault
    refine ⟨⟨World.run_fails_of_generate, ?_⟩, ?_⟩
    · rintro ⟨e, rfl, he⟩
      rw [World.host.generate_of_run_fails he]
      rfl
    · intro hfault
      obtain ⟨e, -, he⟩ := World.run_fails_of_generate hfault
      rw [World.host.generate_of_run_fails he]
      rfl

/-! ### Documentation with both faults, and with one -/

def plainClass (name : Text) : ClassDoc where
  params := []
  returned := none
  isStatic := false
  isChainable := false
  line := none
  file := []
  description := []
  isConstructor := false
  overloads := none
  name := name
  parent := none

def frobSchema : Schema :=
  ⟨.ofList [("p5", plainClass "p5"), ("p5.Vector", plainClass "p5.Vector"),
    ("Frob", plainClass "Frob"), ("Frob.Nub", plainClass "Frob.Nub")], []⟩

def vectorSchema : Schema :=
  ⟨.ofList [("p5", plainClass "p5"), ("p5.Vector", plainClass "Vector")], []⟩

/-- The class without a constructor comes first, but the name that cannot be declared counts. -/
theorem fails_frob :
    (run .standard frobSchema).result = .error (.undeclarable "Frob" "p5") ∧
      (run .standard vectorSchema).result = .error (.notConstructor "Vector") := by
  obtain ⟨-, hundeclarable, -, -⟩ := fails_iff .standard frobSchema
  obtain ⟨-, -, hconstructor, -⟩ := fails_iff .standard vectorSchema
  constructor
  · exact hundeclarable ["p5", "p5.Vector"] "Frob" ["Frob.Nub"] (by decide) (by decide) (by decide)
  · refine hconstructor (by decide) ["p5"] "p5.Vector" [] (plainClass "Vector") (by decide) rfl
      (by decide) rfl ?_
    intro other hother hsub
    rw [List.mem_singleton] at hother
    subst hother
    exact absurd hsub (by decide)

end Build

end Ambient
