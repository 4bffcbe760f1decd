/-
  Ambient/Proofs/BuildWalk.lean
  =============================
  **What a build does on its way through documentation.**

  A build passes the classes of the root and then those of the namespace.  Passing a class changes
  the documentation of this class and of no other (`itemsFor_retypeItemsOf_of_ne`,
  `get?_retypeClass`), so what a walk will find in a class that it has not come to yet is what was
  documented from the start.  Hence the table of constant types behind a whole build is filled
  from the documentation that the build was given, in one order (`Schema.builtParams`), and the
  documentation behind it has the constant types of exactly those parameters
  (`builtParams_retyped`).
-/
import Ambient.Proofs.MemberWalk
import Mathlib.Data.List.Basic

namespace Ambient

/-! ### The documentation of one class -/

namespace Schema

def itemParams (schema : Schema) (className : Text) : List (Text × Param) :=
  (schema.itemsFor className).flatMap ItemDoc.memberParams

/-- The parameters that a build looks at in a class of the namespace: those of its constructors,
    and then those of its items. -/
def classParams (schema : Schema) (className : Text) : List (Text × Param) :=
  match schema.classes.get? className with
  | none => []
  | some info => info.toEntry.memberParams ++ schema.itemParams className

/-- What is documented of a class: the class itself, if it is documented, and its items. -/
def about (schema : Schema) (className : Text) : Option ClassDoc × List ItemDoc :=
  (schema.classes.get? className, schema.itemsFor className)

theorem itemParams_congr {schema schema' : Schema} {className : Text}
    (h : schema'.about className = schema.about className) :
    schema'.itemParams className = schema.itemParams className := by
  simp only [about, Prod.mk.injEq] at h
  simp only [itemParams, h]

theorem classParams_congr {schema schema' : Schema} {className : Text}
    (h : schema'.about className = schema.about className) :
    schema'.classParams className = schema.classParams className := by
  have hitems := itemParams_congr h
  simp only [about, Prod.mk.injEq] at h
  simp only [classParams, h, hitems]

/-- Whether a class, if it is documented at all, is documented as a constructor. -/
def HasConstructor (schema : Schema) (className : Text) : Prop :=
  ∀ info, schema.classes.get? className = some info → info.isConstructor = true

end Schema

namespace Settings

def retypeItemsOf (s : Settings) (schema : Schema) (className : Text) : Schema :=
  { schema with
    items := schema.items.map fun item =>
      if Schema.belongs className item then s.retypeItem item else item }

def retypeInfo (s : Settings) (info : ClassDoc) : ClassDoc :=
  { info with toEntry := s.retypeEntry info.toEntry }

def retypeClass (s : Settings) (schema : Schema) (className : Text) : Schema :=
  match schema.classes.get? className with
  | none => schema
  | some info =>
    s.retypeItemsOf
      { schema with classes := schema.classes.insert className (s.retypeInfo info) } className

theorem isConstructor_retypeInfo (s : Settings) (info : ClassDoc) :
    (s.retypeInfo info).isConstructor = info.isConstructor :=
  info.toEntry.withSignatures_isConstructor _

theorem itemsFor_retypeItemsOf_self (s : Settings) (schema : Schema) (className : Text) :
    (s.retypeItemsOf schema className).itemsFor className =
      (schema.itemsFor className).map s.retypeItem := by
  simp only [Schema.itemsFor, retypeItemsOf]
  induction schema.items with
  | nil => rfl
  | cons item rest ih =>
    by_cases h : Schema.belongs className item = true
    · have hagain : Schema.belongs className (s.retypeItem item) = true := by
        rw [belongs_retypeItem, h]
      rw [List.map_cons, if_pos h, List.filter_cons_of_pos hagain, List.filter_cons_of_pos h,
        List.map_cons, ih]
    · rw [List.map_cons, if_neg h, List.filter_cons_of_neg h, List.filter_cons_of_neg h, ih]

/-- An item belongs to one class at most. -/
theorem itemsFor_retypeItemsOf_of_ne (s : Settings) (schema : Schema) {className other : Text}
    (hne : other ≠ className) :
    (s.retypeItemsOf schema className).itemsFor other = schema.itemsFor other := by
  simp only [Schema.itemsFor, retypeItemsOf]
  induction schema.items with
  | nil => rfl
  | cons item rest ih =>
    rw [List.map_cons]
    by_cases h : Schema.belongs className item = true
    · have hother : ¬ Schema.belongs other item = true := by
        simp only [Schema.belongs, Bool.and_eq_true, decide_eq_true_eq] at h ⊢
        rintro ⟨howner, -⟩
        exact hne (howner.symm.trans h.1)
      have hagain : ¬ Schema.belongs other (s.retypeItem item) = true := by
        rwa [belongs_retypeItem]
      rw [if_pos h, List.filter_cons_of_neg hagain, List.filter_cons_of_neg hother, ih]
    · rw [if_neg h, List.filter_cons, List.filter_cons, ih]

theorem itemsFor_retypeClass_self (s : Settings) {schema : Schema} {className : Text}
    (h : className ∈ schema.classNames) :
    (s.retypeClass schema className).itemsFor className =
      (schema.itemsFor className).map s.retypeItem := by
  obtain ⟨info, hinfo⟩ := Table.mem_keys_iff.1 h
  simp only [retypeClass, hinfo, itemsFor_retypeItemsOf_self]
  rfl

theorem itemsFor_retypeClass_of_ne (s : Settings) (schema : Schema) {className other : Text}
    (hne : other ≠ className) :
    (s.retypeClass schema className).itemsFor other = schema.itemsFor other := by
  unfold retypeClass
  split
  · rfl
  · rw [itemsFor_retypeItemsOf_of_ne s _ hne]
    rfl

theorem get?_retypeClass (s : Settings) (schema : Schema) (className other : Text) :
    (s.retypeClass schema className).classes.get? other =
      if other = className then (schema.classes.get? other).map s.retypeInfo
      else schema.classes.get? other := by
  unfold retypeClass
  split
  · next hinfo =>
    split
    · next h => rw [h, hinfo, Option.map_none]
    · rfl
  · next info hinfo =>
    change (schema.classes.insert className (s.retypeInfo info)).get? other = _
    rw [Table.get?_insert]
    split
    · next h => rw [h, hinfo, Option.map_some]
    · rfl

theorem classNames_retypeClass (s : Settings) (schema : Schema) (className : Text) :
    (s.retypeClass schema className).classNames = schema.classNames := by
  unfold retypeClass
  split
  · rfl
  · next info hinfo =>
    change (schema.classes.insert className (s.retypeInfo info)).keys = _
    rw [Table.keys_insert, if_pos (Table.mem_keys_iff.2 ⟨info, hinfo⟩)]
    rfl

theorem hasConstructor_retypeClass (s : Settings) (schema : Schema) (className other : Text) :
    (s.retypeClass schema className).HasConstructor other ↔ schema.HasConstructor other := by
  simp only [Schema.HasConstructor, get?_retypeClass]
  split
  · cases schema.classes.get? other with
    | none => simp
    | some info => simp [isConstructor_retypeInfo]
  · rfl

end Settings

/-! ### The documentation behind a walk, class by class -/

namespace Schema

/-- Where each step of a walk changes what is documented of its own class, and of no other, the
    whole walk changes what is documented of each class that it passes once. -/
theorem about_foldl {f : Schema → Text → Schema}
    {g : Option ClassDoc × List ItemDoc → Option ClassDoc × List ItemDoc}
    (hself : ∀ schema name, (f schema name).about name = g (schema.about name))
    (hother : ∀ schema name other, other ≠ name →
      (f schema name).about other = schema.about other)
    (schema : Schema) {names : List Text} (hn : names.Nodup) (name : Text) :
    (names.foldl f schema).about name =
      if name ∈ names then g (schema.about name) else schema.about name := by
  induction names generalizing schema with
  | nil => rfl
  | cons first rest ih =>
    obtain ⟨hnot, hrest⟩ := List.nodup_cons.1 hn
    rw [List.foldl_cons, ih _ hrest]
    by_cases hfirst : name = first
    · subst hfirst
      rw [if_neg hnot, if_pos List.mem_cons_self, hself]
    · rw [hother schema first name hfirst]
      simp only [List.mem_cons, hfirst, false_or]

end Schema

namespace Settings

def retypeAlias (s : Settings) (about : Option ClassDoc × List ItemDoc) :
    Option ClassDoc × List ItemDoc :=
  (about.1, about.2.map s.retypeItem)

def retypeSubclass (s : Settings) :
    Option ClassDoc × List ItemDoc → Option ClassDoc × List ItemDoc
  | (none, items) => (none, items)
  | (some info, items) => (some (s.retypeInfo info), items.map s.retypeItem)

theorem about_retypeItemsOf_self (s : Settings) (schema : Schema) (name : Text) :
    (s.retypeItemsOf schema name).about name = s.retypeAlias (schema.about name) := by
  simp only [Schema.about, retypeAlias, itemsFor_retypeItemsOf_self]
  rfl

theorem about_retypeItemsOf_of_ne (s : Settings) (schema : Schema) (name other : Text)
    (hne : other ≠ name) : (s.retypeItemsOf schema name).about other = schema.about other := by
  simp only [Schema.about, s.itemsFor_retypeItemsOf_of_ne schema hne]
  rfl

theorem about_retypeClass_self (s : Settings) (schema : Schema) (name : Text) :
    (s.retypeClass schema name).about name = s.retypeSubclass (schema.about name) := by
  cases h : schema.classes.get? name with
  | none => simp only [Schema.about, retypeClass, h, retypeSubclass]
  | some info =>
    have hitems := s.itemsFor_retypeClass_self (Table.mem_keys_iff.2 ⟨info, h⟩)
    simp only [Schema.about, hitems, get?_retypeClass, h, if_true, retypeSubclass,
      Option.map_some]

theorem about_retypeClass_of_ne (s : Settings) (schema : Schema) (name other : Text)
    (hne : other ≠ name) : (s.retypeClass schema name).about other = schema.about other := by
  simp only [Schema.about, s.itemsFor_retypeClass_of_ne schema hne, get?_retypeClass,
    if_neg hne]

def retypeSchema (s : Settings) (aliases classes : List Text) (schema : Schema) : Schema :=
  classes.foldl s.retypeClass (aliases.foldl s.retypeItemsOf schema)

theorem classNames_retypeSchema (s : Settings) (aliases classes : List Text) (schema : Schema) :
    (s.retypeSchema aliases classes schema).classNames = schema.classNames := by
  have haliases : (aliases.foldl s.retypeItemsOf schema).classNames = schema.classNames := by
    induction aliases generalizing schema with
    | nil => rfl
    | cons name rest ih => exact ih _
  rw [← haliases, retypeSchema]
  generalize aliases.foldl s.retypeItemsOf schema = walked
  induction classes generalizing walked with
  | nil => rfl
  | cons name rest ih => rw [List.foldl_cons, ih, classNames_retypeClass]

end Settings

/-! ### Walks past one class -/

namespace Walk

theorem passAlias_schema (w : Walk) (className : Text) :
    (w.passAlias className).schema =
      w.context.settings.retypeItemsOf w.schema className := by
  simp only [passAlias, items, Context.buildItems_retyped]
  rfl

theorem passAlias_past (w : Walk) (className : Text) :
    w.context.Past (w.schema.itemParams className) (w.passAlias className).context :=
  w.context.buildItems_past className w.context.settings.rootName w.schema.items

theorem passClass_schema {w : Walk} {className : Text} {info : ClassDoc}
    (h : w.schema.classes.get? className = some info) :
    (w.passClass className info).schema = w.context.settings.retypeClass w.schema className := by
  have hsettings := ((w.context.past_inFile info.file).trans
    (Context.buildMethod_past _ info.toEntry info.name)).settings
  simp only [passClass, items, Context.buildItems_retyped, Settings.retypeClass, h, hsettings,
    Context.buildMethod_retyped]
  rfl

theorem passClass_past {w : Walk} {className : Text} {info : ClassDoc}
    (h : w.schema.classes.get? className = some info) :
    w.context.Past (w.schema.classParams className) (w.passClass className info).context := by
  have hfile := w.context.past_inFile info.file
  have hmethod := hfile.trans (Context.buildMethod_past _ info.toEntry info.name)
  have hitems := hmethod.trans (Context.buildItems_past _ className className w.schema.items)
  simp only [Schema.classParams, h]
  exact hitems

/-- Passing a class leaves alone what is documented of any other. -/
theorem about_passAlias_of_ne (w : Walk) {className other : Text} (hne : other ≠ className) :
    (w.passAlias className).schema.about other = w.schema.about other := by
  rw [passAlias_schema]
  exact w.context.settings.about_retypeItemsOf_of_ne w.schema className other hne

theorem about_passClass_of_ne {w : Walk} {className other : Text} {info : ClassDoc}
    (h : w.schema.classes.get? className = some info) (hne : other ≠ className) :
    (w.passClass className info).schema.about other = w.schema.about other := by
  rw [passClass_schema h]
  exact w.context.settings.about_retypeClass_of_ne w.schema className other hne

/-! ### Walks past several classes -/

theorem passAliases_cons (w : Walk) (className : Text) (rest : List Text) :
    w.passAliases (className :: rest) = (w.passAlias className).passAliases rest := rfl

theorem passClasses_cons_some {w : Walk} {className : Text} {info : ClassDoc}
    (h : w.schema.classes.get? className = some info) (hc : info.isConstructor = true)
    (rest : List Text) :
    w.passClasses (className :: rest) = (w.passClass className info).passClasses rest := by
  simp only [passClasses, h, hc, if_true]

theorem passClasses_cons_none {w : Walk} {className : Text}
    (h : w.schema.classes.get? className = none) (rest : List Text) :
    w.passClasses (className :: rest) = w.passClasses rest := by
  simp only [passClasses, h]

/-- A walk comes to its end unless it meets a class that is not documented as a constructor. -/
theorem passClasses_eq_none_iff (w : Walk) (names : List Text) :
    (w.passClasses names).1 = none ↔ ∀ name ∈ names, w.schema.HasConstructor name := by
  induction names generalizing w with
  | nil => simp [passClasses]
  | cons className rest ih =>
    rw [List.forall_mem_cons]
    cases h : w.schema.classes.get? className with
    | none => simp [passClasses_cons_none h, ih, Schema.HasConstructor, h]
    | some info =>
      have hhere : w.schema.HasConstructor className ↔ info.isConstructor = true := by
        simp [Schema.HasConstructor, h]
      by_cases hc : info.isConstructor = true
      · simp only [passClasses_cons_some h hc, ih, passClass_schema h,
          Settings.hasConstructor_retypeClass, hhere, hc, true_and]
      · simp [passClasses, h, hc, hhere]

theorem passAliases_schema (w : Walk) (names : List Text) :
    (w.passAliases names).schema =
      names.foldl w.context.settings.retypeItemsOf w.schema := by
  induction names generalizing w with
  | nil => rfl
  | cons className rest ih =>
    rw [passAliases_cons, ih, (w.passAlias_past className).settings, passAlias_schema]
    rfl

/-- The classes of the root that a walk has not come to, behind one of them. -/
theorem itemParams_behind_passAlias (w : Walk) {className : Text} {rest : List Text}
    (h : className ∉ rest) :
    rest.flatMap (w.passAlias className).schema.itemParams =
      rest.flatMap w.schema.itemParams := by
  apply List.flatMap_congr
  intro other hother
  apply Schema.itemParams_congr
  apply about_passAlias_of_ne
  rintro rfl
  exact h hother

/-- The classes of the namespace that a walk has not come to, behind one of them. -/
theorem classParams_behind_passClass {w : Walk} {className : Text} {info : ClassDoc}
    (hinfo : w.schema.classes.get? className = some info) {rest : List Text}
    (h : className ∉ rest) :
    rest.flatMap (w.passClass className info).schema.classParams =
      rest.flatMap w.schema.classParams := by
  apply List.flatMap_congr
  intro other hother
  apply Schema.classParams_congr
  apply about_passClass_of_ne hinfo
  rintro rfl
  exact h hother

theorem passAliases_past (w : Walk) {names : List Text} (hn : names.Nodup) :
    w.context.Past (names.flatMap w.schema.itemParams) (w.passAliases names).context := by
  induction names generalizing w with
  | nil => exact w.context.past_nil
  | cons className rest ih =>
    obtain ⟨hnot, hrest⟩ := List.nodup_cons.1 hn
    have hmore := ih (w.passAlias className) hrest
    rw [w.itemParams_behind_passAlias hnot] at hmore
    exact (w.passAlias_past className).trans hmore

theorem passClasses_schema {w : Walk} {names : List Text} (h : (w.passClasses names).1 = none) :
    (w.passClasses names).2.schema = names.foldl w.context.settings.retypeClass w.schema := by
  induction names generalizing w with
  | nil => rfl
  | cons className rest ih =>
    cases hinfo : w.schema.classes.get? className with
    | none =>
      have hskip : w.context.settings.retypeClass w.schema className = w.schema := by
        simp only [Settings.retypeClass, hinfo]
      rw [passClasses_cons_none hinfo] at h ⊢
      rw [ih h, List.foldl_cons, hskip]
    | some info =>
      have hc := ((passClasses_eq_none_iff w _).1 h) className List.mem_cons_self info hinfo
      rw [passClasses_cons_some hinfo hc] at h ⊢
      rw [ih h, (passClass_past hinfo).settings, passClass_schema hinfo, List.foldl_cons]

theorem passClasses_past {w : Walk} {names : List Text} (hn : names.Nodup)
    (h : (w.passClasses names).1 = none) :
    w.context.Past (names.flatMap w.schema.classParams) (w.passClasses names).2.context := by
  induction names generalizing w with
  | nil => exact w.context.past_nil
  | cons className rest ih =>
    obtain ⟨hnot, hrest⟩ := List.nodup_cons.1 hn
    rw [List.flatMap_cons]
    cases hinfo : w.schema.classes.get? className with
    | none =>
      have hnil : w.schema.classParams className = [] := by simp only [Schema.classParams, hinfo]
      rw [passClasses_cons_none hinfo] at h ⊢
      rw [hnil]
      exact ih hrest h
    | some info =>
      have hc := ((passClasses_eq_none_iff w _).1 h) className List.mem_cons_self info hinfo
      rw [passClasses_cons_some hinfo hc] at h ⊢
      have hmore := ih hrest h
      rw [classParams_behind_passClass hinfo hnot] at hmore
      exact (passClass_past hinfo).trans hmore

/-- The classes that a walk past classes of the root has not come to. -/
theorem about_passAliases_of_notMem (w : Walk) {names : List Text} (hn : names.Nodup)
    {name : Text} (h : name ∉ names) :
    (w.passAliases names).schema.about name = w.schema.about name := by
  have habout := Schema.about_foldl w.context.settings.about_retypeItemsOf_self
    w.context.settings.about_retypeItemsOf_of_ne w.schema hn name
  rw [if_neg h] at habout
  rwa [passAliases_schema]

theorem classParams_behind_passAliases (w : Walk) {aliases classes : List Text}
    (hn : aliases.Nodup) (hd : ∀ name ∈ classes, name ∉ aliases) :
    classes.flatMap (w.passAliases aliases).schema.classParams =
      classes.flatMap w.schema.classParams := by
  apply List.flatMap_congr
  intro name hname
  exact Schema.classParams_congr (w.about_passAliases_of_notMem hn (hd name hname))

def through (settings : Settings) (schema : Schema) (aliases classes : List Text) :
    Option BuildError × Walk :=
  ((start settings schema).passAliases aliases).passClasses classes

end Walk

/-! ### Whole builds -/

/-- The parameters that a build looks at, in its order, each with the name of its member. -/
def Schema.builtParams (settings : Settings) (schema : Schema) : List (Text × Param) :=
  match settings.partition schema.classNames with
  | .error _ => []
  | .ok (aliases, classes) =>
    aliases.flatMap schema.itemParams ++ classes.flatMap schema.classParams

namespace Settings

/-- A first name that can be parted is one of the root or one of the namespace. -/
theorem partition_cons_eq_ok {s : Settings} {name : Text} {rest aliases classes : List Text}
    (h : s.partition (name :: rest) = .ok (aliases, classes)) :
    ∃ rootNames others, s.partition rest = .ok (rootNames, others) ∧
      (name ∈ s.aliases ∧ aliases = name :: rootNames ∧ classes = others ∨
        name ∉ s.aliases ∧ (s.subclassName? name).isSome = true ∧
          aliases = rootNames ∧ classes = name :: others) := by
  cases hrest : s.partition rest with
  | error e =>
    simp only [partition, hrest] at h
    split at h
    · cases h
    · split at h <;> cases h
  | ok parts =>
    refine ⟨parts.1, parts.2, rfl, ?_⟩
    simp only [partition, hrest] at h
    by_cases hname : name ∈ s.aliases
    · rw [if_pos (List.contains_iff_mem.2 hname)] at h
      cases h
      exact .inl ⟨hname, rfl, rfl⟩
    · rw [if_neg (mt List.contains_iff_mem.1 hname)] at h
      split at h
      · next hsome =>
        cases h
        exact .inr ⟨hname, hsome, rfl, rfl⟩
      · cases h

/-- The classes of the root are apart from those of the namespace. -/
theorem partition_eq_ok {s : Settings} {names aliases classes : List Text}
    (h : s.partition names = .ok (aliases, classes)) :
    aliases = names.filter (· ∈ s.aliases) ∧ classes = names.filter (· ∉ s.aliases) := by
  induction names generalizing aliases classes with
  | nil =>
    cases h
    exact ⟨rfl, rfl⟩
  | cons name rest ih =>
    obtain ⟨rootNames, others, hrest, hcase⟩ := partition_cons_eq_ok h
    obtain ⟨ha, hc⟩ := ih hrest
    rcases hcase with ⟨hname, rfl, rfl⟩ | ⟨hname, -, rfl, rfl⟩
    · simp [hname, ha, hc]
    · simp [hname, ha, hc]

theorem isSome_of_partition {s : Settings} {names aliases classes : List Text}
    (h : s.partition names = .ok (aliases, classes)) :
    ∀ name ∈ classes, (s.subclassName? name).isSome = true := by
  induction names generalizing aliases classes with
  | nil =>
    cases h
    intro name hname
    exact absurd hname List.not_mem_nil
  | cons first rest ih =>
    obtain ⟨rootNames, others, hrest, hcase⟩ := partition_cons_eq_ok h
    rcases hcase with ⟨-, rfl, rfl⟩ | ⟨-, hsome, rfl, rfl⟩
    · exact ih hrest
    · rw [List.forall_mem_cons]
      exact ⟨hsome, ih hrest⟩

/-- How the classes of a documentation part: no class comes twice. -/
structure Parts (s : Settings) (schema : Schema) (aliases classes : List Text) :
    Prop where
  partition : s.partition schema.classNames = .ok (aliases, classes)
  aliases_nodup : aliases.Nodup
  classes_nodup : classes.Nodup
  disjoint : ∀ name ∈ classes, name ∉ aliases

theorem parts_of_partition {s : Settings} {schema : Schema} {aliases classes : List Text}
    (h : s.partition schema.classNames = .ok (aliases, classes)) :
    s.Parts schema aliases classes := by
  obtain ⟨rfl, rfl⟩ := partition_eq_ok h
  refine ⟨h, schema.classes.keys_nodup.filter _, schema.classes.keys_nodup.filter _, ?_⟩
  intro name hclass halias
  have hnot := of_decide_eq_true (List.mem_filter.1 hclass).2
  exact hnot (of_decide_eq_true (List.mem_filter.1 halias).2)

end Settings

namespace Build

/-- A build whose walk comes to its end. -/
theorem run_of_walk {settings : Settings} {schema : Schema} {aliases classes : List Text}
    (hparts : settings.Parts schema aliases classes)
    (hdone : (Walk.through settings schema aliases classes).1 = none) :
    run settings schema =
      ⟨.ok (Walk.through settings schema aliases classes).2.model,
        (Walk.through settings schema aliases classes).2.schema,
        (Walk.through settings schema aliases classes).2.model.members⟩ := by
  unfold Walk.through at hdone ⊢
  simp only [run, hparts.partition, hdone]

/-- A build that succeeds has parted the classes and walked past all of them. -/
theorem run_eq_ok {settings : Settings} {schema : Schema} {model : Model}
    (h : (run settings schema).result = .ok model) :
    ∃ aliases classes, settings.Parts schema aliases classes ∧
      (Walk.through settings schema aliases classes).1 = none ∧
      (Walk.through settings schema aliases classes).2.model = model ∧
      (run settings schema).schema =
        (Walk.through settings schema aliases classes).2.schema := by
  cases hpartition : settings.partition schema.classNames with
  | error e =>
    simp only [run, hpartition] at h
    exact nomatch h
  | ok parts =>
    obtain ⟨aliases, classes⟩ := parts
    have hparts := Settings.parts_of_partition hpartition
    cases hdone : (Walk.through settings schema aliases classes).1 with
    | some e =>
      unfold Walk.through at hdone
      simp only [run, hpartition, hdone] at h
      exact nomatch h
    | none =>
      have hrun := run_of_walk hparts hdone
      rw [hrun] at h ⊢
      exact ⟨aliases, classes, hparts, hdone, Except.ok.inj h, rfl⟩

/-- The documentation and the context behind a walk that comes to its end. -/
theorem walk_end {settings : Settings} {schema : Schema} {aliases classes : List Text}
    (hparts : settings.Parts schema aliases classes)
    (hdone : (Walk.through settings schema aliases classes).1 = none) :
    (Walk.through settings schema aliases classes).2.schema =
        settings.retypeSchema aliases classes schema ∧
      (Walk.start settings schema).context.Past (schema.builtParams settings)
        (Walk.through settings schema aliases classes).2.context := by
  have halias := (Walk.start settings schema).passAliases_past hparts.aliases_nodup
  have hclass := Walk.passClasses_past hparts.classes_nodup hdone
  have hschema := Walk.passClasses_schema hdone
  rw [halias.settings, Walk.passAliases_schema] at hschema
  refine ⟨hschema, ?_⟩
  rw [(Walk.start settings schema).classParams_behind_passAliases hparts.aliases_nodup
    hparts.disjoint] at hclass
  have hall := halias.trans hclass
  simp only [Schema.builtParams, hparts.partition]
  exact hall

theorem exists_ok_of_map {ε α β : Type} {result : Except ε α} {f : α → β} {b : β}
    (h : (result.map f).toOption = some b) : ∃ a, result = .ok a ∧ f a = b := by
  cases result with
  | error e => exact nomatch h
  | ok a => exact ⟨a, rfl, Option.some.inj h⟩

/-- The constant types of a model are those of the parameters that the build looked at. -/
theorem constants_eq {settings : Settings} {schema : Schema} {model : Model}
    (h : (run settings schema).result = .ok model) :
    model.constants = Table.ofList (settings.registrations (schema.builtParams settings)) := by
  obtain ⟨aliases, classes, hparts, hdone, rfl, -⟩ := run_eq_ok h
  exact (walk_end hparts hdone).2.constants

/-- Behind a walk past classes that are all different each of them has its constant types. -/
theorem about_retypeSchema_of_nodup (settings : Settings) (schema : Schema)
    {aliases classes : List Text} (ha : aliases.Nodup) (hc : classes.Nodup)
    (hd : ∀ name ∈ classes, name ∉ aliases) :
    (∀ name ∈ aliases, (settings.retypeSchema aliases classes schema).about name =
      settings.retypeAlias (schema.about name)) ∧
    (∀ name ∈ classes, (settings.retypeSchema aliases classes schema).about name =
      settings.retypeSubclass (schema.about name)) := by
  have haliases := Schema.about_foldl settings.about_retypeItemsOf_self
    settings.about_retypeItemsOf_of_ne schema ha
  have hclasses := Schema.about_foldl settings.about_retypeClass_self
    settings.about_retypeClass_of_ne (aliases.foldl settings.retypeItemsOf schema) hc
  constructor
  · intro name hname
    have hnot : name ∉ classes := fun hclass => hd name hclass hname
    rw [Settings.retypeSchema, hclasses, if_neg hnot, haliases, if_pos hname]
  · intro name hname
    rw [Settings.retypeSchema, hclasses, if_pos hname, haliases, if_neg (hd name hname)]

theorem about_retypeSchema {settings : Settings} {schema : Schema} {aliases classes : List Text}
    (hparts : settings.Parts schema aliases classes) :
    (∀ name ∈ aliases, (settings.retypeSchema aliases classes schema).about name =
      settings.retypeAlias (schema.about name)) ∧
    (∀ name ∈ classes, (settings.retypeSchema aliases classes schema).about name =
      settings.retypeSubclass (schema.about name)) :=
  about_retypeSchema_of_nodup settings schema hparts.aliases_nodup hparts.classes_nodup hparts.disjoint

theorem itemParams_retyped {settings : Settings} {schema schema' : Schema} {name : Text}
    (h : schema'.itemsFor name = (schema.itemsFor name).map settings.retypeItem) :
    schema'.itemParams name = settings.retypeAll (schema.itemParams name) := by
  simp only [Schema.itemParams, h, List.flatMap_map, Settings.memberParams_retypeItem,
    Settings.retypeAll, List.map_flatMap]

theorem classParams_retyped {settings : Settings} {schema schema' : Schema} {name : Text}
    (h : schema'.about name = settings.retypeSubclass (schema.about name)) :
    schema'.classParams name = settings.retypeAll (schema.classParams name) := by
  unfold Schema.about at h
  cases hinfo : schema.classes.get? name with
  | none =>
    simp only [hinfo, Settings.retypeSubclass, Prod.mk.injEq] at h
    simp only [Schema.classParams, hinfo, h.1, Settings.retypeAll, List.map_nil]
  | some info =>
    simp only [hinfo, Settings.retypeSubclass, Prod.mk.injEq] at h
    have hentry := settings.memberParams_retypeEntry info.toEntry
    have hitems := itemParams_retyped h.2
    simp only [Schema.classParams, hinfo, h.1, hitems, Settings.retypeInfo, hentry,
      Settings.retypeAll, List.map_append]

/-- The parameters of the documentation behind a build are those it looked at, with their constant
    types. -/
theorem builtParams_retyped {settings : Settings} {schema : Schema} {model : Model}
    (h : (run settings schema).result = .ok model) :
    (run settings schema).schema.builtParams settings =
      settings.retypeAll (schema.builtParams settings) := by
  obtain ⟨aliases, classes, hparts, hdone, -, hschema⟩ := run_eq_ok h
  have hbehind := hschema.trans (walk_end hparts hdone).1
  obtain ⟨haliases, hclasses⟩ := about_retypeSchema hparts
  have hagain : settings.partition
      (settings.retypeSchema aliases classes schema).classNames = .ok (aliases, classes) := by
    rw [Settings.classNames_retypeSchema, hparts.partition]
  rw [hbehind]
  simp only [Schema.builtParams, hagain, hparts.partition, Settings.retypeAll, List.map_append,
    List.map_flatMap]
  congr 1
  · apply List.flatMap_congr
    intro name hname
    exact itemParams_retyped (congrArg Prod.snd (haliases name hname))
  · apply List.flatMap_congr
    intro name hname
    exact classParams_retyped (hclasses name hname)

end Build

end Ambient
