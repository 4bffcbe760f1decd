/-
  Ambient/Proofs/BuildFrame.lean
  ==============================
  **What a build leaves alone.**

  A build changes the documentation that it is given, and this file says how far the change goes.
  Documentation and what has become of it are compared piece by piece, down to the single
  parameter (`Schema.MayBecome`): the same classes under the same names, the same items in the same
  order, and in each of them everything but the types of some parameters.  A parameter has another
  type only if it was documented as taking one of several constants, and only in a signature of a
  method or of a class of the namespace.

  The comparison rests on a closed form of what a walk leaves (`items_retypeSchema`,
  `classes_retypeSchema`): since a type is replaced once and for all (`retypeItem_retypeItem`), the
  classes may be walked past in any order, and each item can be looked at on its own.  A build that
  breaks off has walked past the first few of its classes (`Build.exists_walked`), so the frame is
  the same whether a build succeeds or fails (`Build.frame_of_build`).
-/
import Ambient.Proofs.ConstantRegistry
import Ambient.Proofs.InterruptedBuilds
import Mathlib.Data.List.Forall2
import Mathlib.Data.List.Nodup

namespace Ambient

theorem Table.get?_of_mem_entries {α : Type} {t : Table α} {e : Text × α} (h : e ∈ t.entries) :
    t.get? e.1 = some e.2 := by
  obtain ⟨value, hvalue⟩ := mem_keys_iff.1 (List.mem_map_of_mem h)
  have hsame : (e.1, value) = e :=
    List.inj_on_of_nodup_map t.nodup (mem_entries_of_get? hvalue) h rfl
  rw [hvalue, ← hsame]

/-! ### Documentation that differs in types only -/

section MayBecome

variable (s : Settings) (given : Text → Prop)

/-- Whether one parameter is another but for its type, which may be a given one if the parameter
    was documented with the token for constants. -/
structure Param.MayBecome (p p' : Param) : Prop where
  rest : p' = { p with type := p'.type }
  type : p'.type ≠ p.type →
    p.type.map Text.trim = some s.constantToken ∧ ∃ type, p'.type = some type ∧ given type

structure Signature.MayBecome (sig sig' : Signature) : Prop where
  rest : sig' = { sig with params := sig'.params }
  params : List.Forall₂ (Param.MayBecome s given) sig.params sig'.params

/-- Only what stands as a signature may change: of an entry with overloads not its own one. -/
structure Entry.MayBecome (e e' : Entry) : Prop where
  rest : e' = e.withSignatures e'.signatures
  signatures : List.Forall₂ (Signature.MayBecome s given) e.signatures e'.signatures

/-- Only named methods of documented classes may change. -/
def ItemDoc.MayBecome (documented : List Text) (item item' : ItemDoc) : Prop :=
  item' = item ∨
    item.kind = .method ∧ item.name ≠ [] ∧ item.owner ∈ documented ∧
      ∃ e, item.toEntry.MayBecome s given e ∧ item' = { item with toEntry := e }

/-- Only classes of the namespace may change. -/
def ClassDoc.MayBecome (className : Text) (info info' : ClassDoc) : Prop :=
  info' = info ∨
    s.IsSubclass className ∧
      ∃ e, info.toEntry.MayBecome s given e ∧ info' = { info with toEntry := e }

structure Schema.MayBecome (schema schema' : Schema) : Prop where
  classes : List.Forall₂ (fun c c' => c'.1 = c.1 ∧ ClassDoc.MayBecome s given c.1 c.2 c'.2)
    schema.classes.entries schema'.classes.entries
  items : List.Forall₂ (ItemDoc.MayBecome s given schema.classNames) schema.items schema'.items

end MayBecome

namespace Settings

variable {s : Settings} {given : Text → Prop}

def GivesOnly (s : Settings) (given : Text → Prop) (params : List (Text × Param)) : Prop :=
  ∀ q ∈ params, ∀ type constants, s.constantType? q.1 q.2 = some (type, constants) → given type

theorem mayBecome_retype {member : Text} {p : Param}
    (h : ∀ type constants, s.constantType? member p = some (type, constants) → given type) :
    p.MayBecome s given (s.retype member p) := by
  cases hp : s.constantType? member p with
  | none =>
    have hsame : s.retype member p = p := by simp only [retype, hp]
    rw [hsame]
    exact ⟨rfl, fun hne => absurd rfl hne⟩
  | some e =>
    obtain ⟨type, constants⟩ := e
    have hretyped : s.retype member p = { p with type := some type } := by simp only [retype, hp]
    rw [hretyped]
    refine ⟨rfl, fun _ => ⟨?_, type, rfl, h type constants hp⟩⟩
    simp only [constantType?, Option.ite_none_right_eq_some, Bool.and_eq_true] at hp
    exact of_decide_eq_true hp.1.1

theorem mayBecome_retypeSignature {member : Text} {sig : Signature}
    (h : s.GivesOnly given (sig.memberParams member)) :
    sig.MayBecome s given (s.retypeSignature member sig) := by
  refine ⟨rfl, ?_⟩
  simp only [retypeSignature, List.forall₂_map_right_iff, List.forall₂_same]
  intro p hp
  exact mayBecome_retype (h (member, p) (List.mem_map_of_mem hp))

theorem mayBecome_retypeEntry {e : Entry} (h : s.GivesOnly given e.memberParams) :
    e.MayBecome s given (s.retypeEntry e) := by
  constructor
  · rw [signatures_retypeEntry]
    rfl
  · simp only [signatures_retypeEntry, List.forall₂_map_right_iff, List.forall₂_same]
    intro sig hsig
    apply mayBecome_retypeSignature
    intro q hq
    exact h q (List.mem_flatMap.2 ⟨sig, hsig, hq⟩)

/-! ### What a walk leaves, item by item -/

def retypeOwned (s : Settings) (names : List Text) (item : ItemDoc) : ItemDoc :=
  if names.any (Schema.belongs · item) then s.retypeItem item else item

theorem retypeOwned_cons (name : Text) (rest : List Text) (item : ItemDoc) :
    s.retypeOwned rest (if Schema.belongs name item then s.retypeItem item else item) =
      s.retypeOwned (name :: rest) item := by
  by_cases h : Schema.belongs name item = true
  · simp [retypeOwned, h, belongs_retypeItem, retypeItem_retypeItem]
  · simp [retypeOwned, h]

theorem retypeOwned_append (names more : List Text) (item : ItemDoc) :
    s.retypeOwned more (s.retypeOwned names item) = s.retypeOwned (names ++ more) item := by
  by_cases h : names.any (Schema.belongs · item) = true
  · simp [retypeOwned, h, belongs_retypeItem, retypeItem_retypeItem]
  · simp [retypeOwned, h]

theorem items_retypeClass {schema : Schema} {name : Text} (h : name ∈ schema.classNames) :
    (s.retypeClass schema name).items = (s.retypeItemsOf schema name).items := by
  obtain ⟨info, hinfo⟩ := Table.mem_keys_iff.1 h
  simp only [retypeClass, hinfo]
  rfl

/-- Steps that look at the items of one class each leave the items that any of them looked at. -/
theorem items_foldl {f : Schema → Text → Schema} {schema : Schema} {names : List Text}
    (hnames : ∀ name ∈ names, name ∈ schema.classNames)
    (hkept : ∀ schema name, (f schema name).classNames = schema.classNames)
    (hstep : ∀ (schema : Schema), ∀ name ∈ schema.classNames,
      (f schema name).items = (s.retypeItemsOf schema name).items) :
    (names.foldl f schema).items = schema.items.map (s.retypeOwned names) := by
  induction names generalizing schema with
  | nil => exact (List.map_id _).symm
  | cons name rest ih =>
    rw [List.forall_mem_cons] at hnames
    have hrest : ∀ other ∈ rest, other ∈ (f schema name).classNames := by
      rw [hkept]
      exact hnames.2
    rw [List.foldl_cons, ih hrest, hstep schema name hnames.1, retypeItemsOf, List.map_map]
    apply List.map_congr_left
    intro item _
    exact retypeOwned_cons name rest item

theorem items_retypeSchema {schema : Schema} {aliases classes : List Text}
    (haliases : ∀ name ∈ aliases, name ∈ schema.classNames)
    (hclasses : ∀ name ∈ classes, name ∈ schema.classNames) :
    (s.retypeSchema aliases classes schema).items =
      schema.items.map (s.retypeOwned (aliases ++ classes)) := by
  have hnames : (aliases.foldl s.retypeItemsOf schema).classNames = schema.classNames :=
    s.classNames_retypeSchema aliases [] schema
  rw [← hnames] at hclasses
  have hroot : (aliases.foldl s.retypeItemsOf schema).items =
      schema.items.map (s.retypeOwned aliases) :=
    items_foldl haliases (fun _ _ => rfl) fun _ _ _ => rfl
  rw [retypeSchema, items_foldl hclasses s.classNames_retypeClass fun _ _ => items_retypeClass,
    hroot, List.map_map]
  apply List.map_congr_left
  intro item _
  exact retypeOwned_append aliases classes item

def retypeWalked (s : Settings) (names : List Text) (name : Text) (info : ClassDoc) : ClassDoc :=
  if names.contains name then s.retypeInfo info else info

theorem classes_retypeClass (schema : Schema) (name : Text) :
    (s.retypeClass schema name).classes = schema.classes.mapEntries (s.retypeWalked [name]) := by
  unfold retypeClass
  cases hinfo : schema.classes.get? name with
  | none =>
    symm
    apply Table.mapEntries_eq_self
    intro e he
    have hne : e.1 ≠ name := by
      rintro rfl
      obtain ⟨info, hsome⟩ := Table.mem_keys_iff.1 (List.mem_map_of_mem he)
      exact nomatch hinfo.symm.trans hsome
    simp [retypeWalked, hne]
  | some info =>
    change schema.classes.insert name (s.retypeInfo info) = _
    rw [Table.insert_eq_mapEntries hinfo]
    congr 1
    funext key other
    simp [retypeWalked]

theorem classes_retypeSchema (schema : Schema) (aliases classes : List Text) :
    (s.retypeSchema aliases classes schema).classes =
      schema.classes.mapEntries (s.retypeWalked classes) := by
  have hroot : (aliases.foldl s.retypeItemsOf schema).classes = schema.classes := by
    induction aliases generalizing schema with
    | nil => rfl
    | cons name rest ih => exact ih _
  rw [← hroot, retypeSchema]
  generalize aliases.foldl s.retypeItemsOf schema = walked
  induction classes generalizing walked with
  | nil => exact (Table.mapEntries_eq_self fun _ _ => rfl).symm
  | cons name rest ih =>
    rw [List.foldl_cons, ih, classes_retypeClass, Table.mapEntries_mapEntries]
    congr 1
    funext key info
    by_cases hname : key = name
    · simp [retypeWalked, hname, retypeInfo_retypeInfo]
    · simp [retypeWalked, hname]

/-! ### The frame of a walk -/

theorem classParams_eq {schema : Schema} {name : Text} {info : ClassDoc}
    (h : schema.classes.get? name = some info) :
    schema.classParams name = info.toEntry.memberParams ++ schema.itemParams name := by
  simp only [Schema.classParams, h]

theorem mayBecome_retypeOwned {schema : Schema} {names : List Text}
    (hnames : ∀ name ∈ names, name ∈ schema.classNames)
    (h : s.GivesOnly given (names.flatMap schema.itemParams)) {item : ItemDoc}
    (hitem : item ∈ schema.items) :
    item.MayBecome s given schema.classNames (s.retypeOwned names item) := by
  unfold retypeOwned
  split
  · next howned =>
    obtain ⟨name, hname, hbelongs⟩ := List.any_eq_true.1 howned
    have hparams : s.GivesOnly given item.memberParams := by
      intro q hq
      apply h
      have hfor : item ∈ schema.itemsFor name := List.mem_filter.2 ⟨hitem, hbelongs⟩
      exact List.mem_flatMap.2 ⟨name, hname, List.mem_flatMap.2 ⟨item, hfor, hq⟩⟩
    simp only [Schema.belongs, Bool.and_eq_true, decide_eq_true_eq, Bool.not_eq_true',
      List.isEmpty_eq_false_iff] at hbelongs
    unfold retypeItem
    split
    · next hmethod =>
      rw [ItemDoc.memberParams, if_pos hmethod] at hparams
      refine Or.inr ⟨hmethod, hbelongs.2, hbelongs.1 ▸ hnames name hname, ?_⟩
      exact ⟨_, mayBecome_retypeEntry hparams, rfl⟩
    · exact Or.inl rfl
  · exact Or.inl rfl

theorem mayBecome_retypeWalked {schema : Schema} {names : List Text}
    (hnames : ∀ name ∈ names, s.IsSubclass name)
    (h : s.GivesOnly given (names.flatMap schema.classParams)) {c : Text × ClassDoc}
    (hc : c ∈ schema.classes.entries) :
    ClassDoc.MayBecome s given c.1 c.2 (s.retypeWalked names c.1 c.2) := by
  unfold retypeWalked
  split
  · next hcontains =>
    have hname : c.1 ∈ names := List.contains_iff_mem.1 hcontains
    refine Or.inr ⟨hnames c.1 hname, s.retypeEntry c.2.toEntry, ?_, rfl⟩
    apply mayBecome_retypeEntry
    intro q hq
    apply h
    refine List.mem_flatMap.2 ⟨c.1, hname, ?_⟩
    rw [classParams_eq (Table.get?_of_mem_entries hc)]
    exact List.mem_append_left _ hq
  · exact Or.inl rfl

theorem mayBecome_retypeSchema {schema : Schema} {aliases classes : List Text}
    (haliases : ∀ name ∈ aliases, name ∈ schema.classNames)
    (hclasses : ∀ name ∈ classes, name ∈ schema.classNames ∧ s.IsSubclass name)
    (h : s.GivesOnly given
      (aliases.flatMap schema.itemParams ++ classes.flatMap schema.classParams)) :
    schema.MayBecome s given (s.retypeSchema aliases classes schema) := by
  have hdocumented : ∀ name ∈ classes, name ∈ schema.classNames :=
    fun name hname => (hclasses name hname).1
  constructor
  · rw [classes_retypeSchema, Table.mapEntries, List.forall₂_map_right_iff, List.forall₂_same]
    intro c hc
    refine ⟨rfl, mayBecome_retypeWalked (fun name hname => (hclasses name hname).2) ?_ hc⟩
    intro q hq
    exact h q (List.mem_append_right _ hq)
  · rw [items_retypeSchema haliases hdocumented, List.forall₂_map_right_iff, List.forall₂_same]
    intro item hitem
    apply mayBecome_retypeOwned _ _ hitem
    · intro name hname
      rcases List.mem_append.1 hname with halias | hclass
      · exact haliases name halias
      · exact hdocumented name hclass
    · intro q hq
      apply h
      rw [List.flatMap_append] at hq
      rcases List.mem_append.1 hq with halias | hclass
      · exact List.mem_append_left _ halias
      · apply List.mem_append_right
        obtain ⟨name, hname, hparam⟩ := List.mem_flatMap.1 hclass
        obtain ⟨info, hinfo⟩ := Table.mem_keys_iff.1 (hdocumented name hname)
        refine List.mem_flatMap.2 ⟨name, hname, ?_⟩
        rw [classParams_eq hinfo]
        exact List.mem_append_right _ hparam

end Settings

/-! ### Whole builds -/

namespace Build

variable {settings : Settings} {schema : Schema}

/-- Whether a build succeeds or fails, it has walked past some of the classes, each where it was
    documented, and left the rest. -/
theorem exists_walked (settings : Settings) (schema : Schema) :
    ∃ aliases classes,
      (∀ name ∈ aliases, name ∈ schema.classNames) ∧
      (∀ name ∈ classes, name ∈ schema.classNames ∧ settings.IsSubclass name) ∧
      (run settings schema).schema = settings.retypeSchema aliases classes schema ∧
      ∀ model, (run settings schema).result = .ok model → schema.builtParams settings =
        aliases.flatMap schema.itemParams ++ classes.flatMap schema.classParams := by
  cases hpartition : settings.partition schema.classNames with
  | error e =>
    refine ⟨[], [], by simp, by simp, schema_of_partition_fails hpartition, ?_⟩
    intro model hmodel
    exact nomatch (run_of_partition_fails hpartition).symm.trans hmodel
  | ok parts =>
    obtain ⟨aliases, classes⟩ := parts
    have hparts := Settings.parts_of_partition hpartition
    obtain ⟨haliases, hclasses⟩ := Settings.partition_eq_ok hpartition
    have hroot : ∀ name ∈ aliases, name ∈ schema.classNames := by
      rw [haliases]
      intro name hname
      exact (List.mem_filter.1 hname).1
    have hspace : ∀ name ∈ classes, name ∈ schema.classNames ∧ settings.IsSubclass name := by
      intro name hname
      have hform := Settings.isSome_of_partition hpartition name hname
      rw [hclasses] at hname
      obtain ⟨hmem, halias⟩ := List.mem_filter.1 hname
      exact ⟨hmem, of_decide_eq_true halias, Settings.isSome_subclassName?_iff.1 hform⟩
    -- a build that stops has walked past the classes in front of the one that stops it
    cases hresult : (run settings schema).result with
    | error e =>
      obtain ⟨before, className, after, rfl, hstop, hbefore⟩ :=
        List.findSome?_eq_some_iff.1 ((run_fails_iff_of_partition hpartition e).1 hresult)
      have hschema := schema_of_stop hpartition hbefore (hstop ▸ Option.some_ne_none _)
      refine ⟨aliases, before, hroot, ?_, hschema, fun _ hmodel => nomatch hmodel⟩
      intro name hname
      exact hspace name (List.mem_append_left _ hname)
    | ok model =>
      refine ⟨aliases, classes, hroot, hspace, ?_, ?_⟩
      · obtain ⟨aliases', classes', hparts', hdone, -, hschema⟩ := run_eq_ok hresult
        obtain ⟨rfl, rfl⟩ := Prod.mk.inj (Except.ok.inj (hparts'.partition.symm.trans hpartition))
        exact hschema.trans (walk_end hparts hdone).1
      · intro _ _
        simp only [Schema.builtParams, hpartition]

/-- The type that a parameter is given is a constant type of the model, and has constants. -/
theorem exists_constants {model : Model} (h : (run settings schema).result = .ok model)
    {q : Text × Param} (hq : q ∈ schema.builtParams settings) {type : Text}
    {constants : List Text} (htype : settings.constantType? q.1 q.2 = some (type, constants)) :
    ∃ kept, model.constants.get? type = some kept ∧ kept ≠ [] := by
  have hmem : type ∈ model.constants.keys := by
    rw [constants_eq h, Table.mem_keys_ofList]
    exact List.mem_map.2 ⟨_, List.mem_filterMap.2 ⟨q, hq, htype⟩, rfl⟩
  obtain ⟨kept, hkept⟩ := Table.mem_keys_iff.1 hmem
  refine ⟨kept, hkept, ?_⟩
  -- they are those of the last parameter with this type, which would have none without constants
  obtain ⟨-, member, p, -, -, hlast, -⟩ := (get?_constants_eq_some_iff h).1 hkept
  simp only [Settings.constantType?, Option.ite_none_right_eq_some, Bool.and_eq_true,
    Option.some.injEq, Prod.mk.injEq] at hlast
  obtain ⟨⟨-, hne⟩, -, rfl⟩ := hlast
  simpa using hne

/-- **The frame of a build.**  Whether a build succeeds or fails, the documentation behind it is
    the documentation in front of it but for the types of parameters that were documented with the
    token for constants, in signatures of named methods of documented classes and of classes of
    the namespace.  If it succeeds, every new type is a constant type of the model that has
    constants, and every parameter that the build looked at has the constant type it is given. -/
theorem frame_of_build (settings : Settings) (schema : Schema) :
    schema.MayBecome settings (fun _ => True) (run settings schema).schema ∧
    ∀ model, (run settings schema).result = .ok model →
      schema.MayBecome settings
        (fun type => ∃ constants, model.constants.get? type = some constants ∧ constants ≠ [])
        (run settings schema).schema ∧
      (run settings schema).schema.builtParams settings =
        (schema.builtParams settings).map fun q => (q.1, settings.retype q.1 q.2) := by
  obtain ⟨aliases, classes, haliases, hclasses, hschema, hbuilt⟩ := exists_walked settings schema
  rw [hschema]
  constructor
  · apply Settings.mayBecome_retypeSchema haliases hclasses
    intro _ _ _ _ _
    trivial
  · intro model hmodel
    refine ⟨Settings.mayBecome_retypeSchema haliases hclasses ?_, ?_⟩
    · intro q hq type constants htype
      rw [← hbuilt model hmodel] at hq
      exact exists_constants hmodel hq htype
    · rw [← hschema]
      exact builtParams_retyped hmodel

/-- The two overloads of one method: both parameters have their constant type, and the class they
    belong to is as it was. -/
theorem frame_of_build_rectMode :
    ∃ model, (run .standard rectModeSchema).result = .ok model ∧
      rectModeSchema.MayBecome .standard
        (fun type => ∃ constants, model.constants.get? type = some constants ∧ constants ≠ [])
        (run .standard rectModeSchema).schema ∧
      (run .standard rectModeSchema).schema.builtParams .standard =
        [(("rectMode" : Text), { cornerMode with type := some ("RECT_MODE" : Text) }),
          (("rectMode" : Text), { centerMode with type := some ("RECT_MODE" : Text) })] := by
  obtain ⟨model, hmodel, -⟩ := exists_ok_of_map build_rectMode
  obtain ⟨-, hframe⟩ := frame_of_build .standard rectModeSchema
  obtain ⟨hchanged, hbuilt⟩ := hframe model hmodel
  refine ⟨model, hmodel, hchanged, ?_⟩
  rw [hbuilt, builtParams_rectMode]
  decide +kernel

end Build

end Ambient
