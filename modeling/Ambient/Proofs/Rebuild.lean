/-
  Ambient/Proofs/Rebuild.lean
  ===========================
  **Building documentation a second time.**

  A build leaves the constant types that it found in the documentation, but the table that says
  what they are goes into its model.  A second build of the same documentation starts with an
  empty table.  It reads a constant type as any other type, so it neither registers nor resolves
  it, unless the name of the type happens to read as the token for constants.

  What is repeated is everything that does not depend on types: a second build succeeds, its model
  has the same outline, and it leaves the documentation as it is, so that every build after it
  gives the same model again.  The model of the first build comes out exactly if all constant
  types recur (`rebuild_of_build`).  For that the two builds are followed class by class
  (`Lockstep`): they are in the same context all the way, although the second one reads other
  types than the first.
-/
import Ambient.Proofs.Outline

namespace Ambient

/-! ### Outlines of documentation with its constant types -/

namespace Settings

theorem methodOutline_retypeSignature (s : Settings) (e : Entry) (new : List Signature)
    (sig : Signature) :
    (e.withSignatures new).methodOutline (s.retypeSignature e.name sig) =
      e.methodOutline sig := by
  simp only [Entry.methodOutline, retypeSignature, Entry.withSignatures_name,
    Entry.withSignatures_isConstructor, Entry.withSignatures_file,
    Entry.withSignatures_description, List.map_map, Function.comp_def]

theorem outline_retypeEntry (s : Settings) (e : Entry) : (s.retypeEntry e).outline = e.outline := by
  rw [Entry.outline, signatures_retypeEntry, List.map_map]
  apply List.map_congr_left
  intro sig _
  exact s.methodOutline_retypeSignature e _ sig

theorem outline_retypeItem (s : Settings) (item : ItemDoc) :
    (s.retypeItem item).outline = item.outline := by
  unfold retypeItem
  by_cases h : item.kind = .method
  · simp only [h, if_true, ItemDoc.outline, outline_retypeEntry]
  · rw [if_neg h]

theorem aliasOutline_retypeAlias (s : Settings) (name : Text)
    (about : Option ClassDoc × List ItemDoc) :
    aliasOutline name (s.retypeAlias about) = aliasOutline name about := by
  simp only [aliasOutline, retypeAlias, List.flatMap_map, outline_retypeItem]

theorem classOutline_retypeSubclass (s : Settings) (name : Text)
    (about : Option ClassDoc × List ItemDoc) :
    s.classOutline name (s.retypeSubclass about) = s.classOutline name about := by
  obtain ⟨info, items⟩ := about
  cases info with
  | none => rfl
  | some info =>
    have hfile : (s.retypeInfo info).file = info.file := info.toEntry.withSignatures_file _
    have hentry : (s.retypeInfo info).toEntry.outline = info.toEntry.outline :=
      s.outline_retypeEntry info.toEntry
    simp only [retypeSubclass, classOutline, hfile, hentry, List.flatMap_map, outline_retypeItem]
    rfl

end Settings

/-! ### Documentation that a build leaves as it is -/

namespace Settings

theorem retypeSignature_retypeSignature (s : Settings) (member : Text) (sig : Signature) :
    s.retypeSignature member (s.retypeSignature member sig) = s.retypeSignature member sig := by
  simp only [retypeSignature, List.map_map, Function.comp_def, retype_retype]

theorem retypeEntry_retypeEntry (s : Settings) (e : Entry) :
    s.retypeEntry (s.retypeEntry e) = s.retypeEntry e := by
  have hsignatures : (s.retypeEntry e).signatures.map
      (s.retypeSignature (s.retypeEntry e).name) = (s.retypeEntry e).signatures := by
    rw [signatures_retypeEntry, name_retypeEntry, List.map_map]
    apply List.map_congr_left
    intro sig _
    exact s.retypeSignature_retypeSignature e.name sig
  rw [retypeEntry, hsignatures, Entry.withSignatures_signatures]

theorem retypeItem_retypeItem (s : Settings) (item : ItemDoc) :
    s.retypeItem (s.retypeItem item) = s.retypeItem item := by
  by_cases h : item.kind = .method
  · simp only [retypeItem, h, if_true, retypeEntry_retypeEntry]
  · simp only [retypeItem, h, if_false]

theorem retypeInfo_retypeInfo (s : Settings) (info : ClassDoc) :
    s.retypeInfo (s.retypeInfo info) = s.retypeInfo info := by
  simp only [retypeInfo, retypeEntry_retypeEntry]

/-- Items that have their constant types are left as they are. -/
theorem retypeItemsOf_eq_self {s : Settings} {schema : Schema} {name : Text}
    {items : List ItemDoc} (h : schema.itemsFor name = items.map s.retypeItem) :
    s.retypeItemsOf schema name = schema := by
  have hitems : (schema.items.map fun item =>
      if Schema.belongs name item then s.retypeItem item else item) = schema.items.map id := by
    apply List.map_congr_left
    intro item hitem
    by_cases hb : Schema.belongs name item = true
    · have hmem : item ∈ items.map s.retypeItem := h ▸ List.mem_filter.2 ⟨hitem, hb⟩
      obtain ⟨original, -, rfl⟩ := List.mem_map.1 hmem
      rw [if_pos hb, retypeItem_retypeItem, id]
    · rw [if_neg hb, id]
  rw [List.map_id] at hitems
  simp only [retypeItemsOf, hitems]

theorem retypeClass_eq_self {s : Settings} {schema : Schema} {name : Text}
    {about : Option ClassDoc × List ItemDoc} (h : schema.about name = s.retypeSubclass about) :
    s.retypeClass schema name = schema := by
  obtain ⟨info, items⟩ := about
  cases info with
  | none =>
    have hnone : schema.classes.get? name = none := congrArg Prod.fst h
    simp only [retypeClass, hnone]
  | some info =>
    have hinfo : schema.classes.get? name = some (s.retypeInfo info) := congrArg Prod.fst h
    have hitems : schema.itemsFor name = items.map s.retypeItem := congrArg Prod.snd h
    simp only [retypeClass, hinfo, retypeInfo_retypeInfo, Table.insert_of_get? hinfo]
    exact retypeItemsOf_eq_self hitems

theorem foldl_eq_self {f : Schema → Text → Schema} {schema : Schema} {names : List Text}
    (h : ∀ name ∈ names, f schema name = schema) : names.foldl f schema = schema := by
  induction names with
  | nil => rfl
  | cons first rest ih =>
    rw [List.foldl_cons, h first List.mem_cons_self]
    exact ih fun name hname => h name (List.mem_cons_of_mem first hname)

end Settings

namespace Build

/-- A walk over documentation that has its constant types leaves it as it is. -/
theorem retypeSchema_retypeSchema {settings : Settings} {schema : Schema}
    {aliases classes : List Text} (hparts : settings.Parts schema aliases classes) :
    settings.retypeSchema aliases classes (settings.retypeSchema aliases classes schema) =
      settings.retypeSchema aliases classes schema := by
  obtain ⟨haliases, hclasses⟩ := about_retypeSchema hparts
  have hroot : aliases.foldl settings.retypeItemsOf
      (settings.retypeSchema aliases classes schema) =
        settings.retypeSchema aliases classes schema :=
    Settings.foldl_eq_self fun name hname =>
      Settings.retypeItemsOf_eq_self (congrArg Prod.snd (haliases name hname))
  have hspace : classes.foldl settings.retypeClass
      (settings.retypeSchema aliases classes schema) =
        settings.retypeSchema aliases classes schema :=
    Settings.foldl_eq_self fun name hname => Settings.retypeClass_eq_self (hclasses name hname)
  generalize settings.retypeSchema aliases classes schema = retyped at hroot hspace ⊢
  rw [Settings.retypeSchema, hroot, hspace]

/-! ### A second build comes to its end -/

theorem hasConstructor_retypeSchema (settings : Settings) (aliases classes : List Text)
    (schema : Schema) (name : Text) :
    (settings.retypeSchema aliases classes schema).HasConstructor name ↔
      schema.HasConstructor name := by
  have hroot : (aliases.foldl settings.retypeItemsOf schema).HasConstructor name ↔
      schema.HasConstructor name := by
    induction aliases generalizing schema with
    | nil => rfl
    | cons first rest ih => exact ih _
  rw [← hroot, Settings.retypeSchema]
  generalize aliases.foldl settings.retypeItemsOf schema = walked
  induction classes generalizing walked with
  | nil => rfl
  | cons first rest ih =>
    rw [List.foldl_cons]
    exact (ih _).trans (settings.hasConstructor_retypeClass walked first name)

/-- A walk past all classes comes to its end if those of the namespace have constructors. -/
theorem walk_ends_iff (settings : Settings) (schema : Schema) (aliases classes : List Text) :
    (Walk.through settings schema aliases classes).1 = none ↔
      ∀ name ∈ classes, schema.HasConstructor name := by
  have hroot := hasConstructor_retypeSchema settings aliases [] schema
  rw [Walk.through, Walk.passClasses_eq_none_iff, Walk.passAliases_schema]
  exact forall₂_congr fun name _ => hroot name

/-- Behind a build that succeeds the same classes part in the same way, and a second walk past
    them comes to its end. -/
theorem second_walk_ends {settings : Settings} {schema : Schema} {aliases classes : List Text}
    (hparts : settings.Parts schema aliases classes)
    (hdone : (Walk.through settings schema aliases classes).1 = none) :
    settings.Parts (settings.retypeSchema aliases classes schema) aliases classes ∧
      (Walk.through settings (settings.retypeSchema aliases classes schema) aliases classes).1 =
        none := by
  constructor
  · apply Settings.parts_of_partition
    rw [Settings.classNames_retypeSchema, hparts.partition]
  · rw [walk_ends_iff] at hdone ⊢
    intro name hname
    exact (hasConstructor_retypeSchema settings aliases classes schema name).2 (hdone name hname)

end Build

/-! ### Two walks in lockstep -/

/-- Whether a walk over documentation with constant types stands where a walk over the
    documentation without them stands: the two have declared the same in the same context, and
    before the second one are the classes that are before the first, with their constant types. -/
structure Walk.Lockstep (aliases classes : List Text) (w w' : Walk) : Prop where
  context : w'.context = w.context
  declaredAliases : w'.aliases = w.aliases
  declaredClasses : w'.classes = w.classes
  beforeAliases : ∀ name ∈ aliases,
    w'.schema.about name = w.context.settings.retypeAlias (w.schema.about name)
  beforeClasses : ∀ name ∈ classes,
    w'.schema.about name = w.context.settings.retypeSubclass (w.schema.about name)

namespace Walk

theorem items_again {w w' : Walk} {name : Text} (hcontext : w'.context = w.context)
    (hitems : w'.schema.itemsFor name =
      (w.schema.itemsFor name).map w.context.settings.retypeItem)
    (h : w.context.settings.Recurring (w.schema.itemParams name)) (owner : Text) :
    (w'.items name owner).1 = (w.items name owner).1 ∧
      (w'.items name owner).2.context = (w.items name owner).2.context := by
  have hagain := Context.buildItems_again hitems h owner
  simp only [Context.outcome, Prod.mk.injEq] at hagain
  simp only [items, hcontext]
  exact hagain

theorem Lockstep.passAlias {name : Text} {aliases classes : List Text} {w w' : Walk}
    (h : Lockstep (name :: aliases) classes w w') (ha : name ∉ aliases) (hc : name ∉ classes)
    (hrecur : w.context.settings.Recurring (w.schema.itemParams name)) :
    Lockstep aliases classes (w.passAlias name) (w'.passAlias name) := by
  have hhere := congrArg Prod.snd (h.beforeAliases name List.mem_cons_self)
  obtain ⟨hmembers, hcontext⟩ :=
    items_again h.context hhere hrecur w.context.settings.rootName
  have hsettings := (w.passAlias_past name).settings
  constructor
  case context => simp only [Walk.passAlias, h.context, hcontext]
  case declaredAliases =>
    change w'.aliases ++ [⟨name, (w'.items name w'.context.settings.rootName).1⟩] =
      w.aliases ++ [⟨name, (w.items name w.context.settings.rootName).1⟩]
    rw [h.context, h.declaredAliases, hmembers]
  case declaredClasses => exact h.declaredClasses
  case beforeAliases =>
    intro other hother
    have hne : other ≠ name := fun heq => ha (heq ▸ hother)
    rw [hsettings, w'.about_passAlias_of_ne hne, w.about_passAlias_of_ne hne]
    exact h.beforeAliases other (List.mem_cons_of_mem name hother)
  case beforeClasses =>
    intro other hother
    have hne : other ≠ name := fun heq => hc (heq ▸ hother)
    rw [hsettings, w'.about_passAlias_of_ne hne, w.about_passAlias_of_ne hne]
    exact h.beforeClasses other hother

def constructors (w : Walk) (name : Text) (info : ClassDoc) : List MethodDecl × Walk :=
  let (methods, entry, ctx) :=
    (w.context.inFile info.file).buildMethod info.toEntry info.name
  let classes := w.schema.classes.insert name { info with toEntry := entry }
  (methods, { w with context := ctx, schema := { w.schema with classes := classes } })

theorem passClass_classes (w : Walk) (name : Text) (info : ClassDoc) :
    (w.passClass name info).classes = w.classes ++ [{
      className := name
      name := (w.context.settings.subclassName? name).getD name
      parent := parentName w.context.settings info.parent
      file := info.file
      members := (w.constructors name info).1.map .method ++
        ((w.constructors name info).2.items name name).1 }] := rfl

theorem constructors_past (w : Walk) (name : Text) (info : ClassDoc) :
    w.context.Past info.toEntry.memberParams (w.constructors name info).2.context :=
  (w.context.past_inFile info.file).trans (Context.buildMethod_past _ info.toEntry info.name)

theorem constructors_again {w w' : Walk} (hcontext : w'.context = w.context) (name : Text)
    {info : ClassDoc} (h : w.context.settings.Recurring info.toEntry.memberParams) :
    (w'.constructors name (w.context.settings.retypeInfo info)).1 = (w.constructors name info).1 ∧
      (w'.constructors name (w.context.settings.retypeInfo info)).2.context =
        (w.constructors name info).2.context := by
  have hfile : (w.context.settings.retypeInfo info).file = info.file :=
    info.toEntry.withSignatures_file _
  have hname : (w.context.settings.retypeInfo info).name = info.name :=
    info.toEntry.withSignatures_name _
  have hagain := Context.buildMethod_again (w.context.inFile info.file) h info.name
  simp only [Context.outcome, Prod.mk.injEq] at hagain
  simp only [constructors, hcontext, hfile, hname]
  exact hagain

theorem Lockstep.passClass {name : Text} {classes : List Text} {w w' : Walk} {info : ClassDoc}
    (h : Lockstep [] (name :: classes) w w') (hc : name ∉ classes)
    (hinfo : w.schema.classes.get? name = some info)
    (hrecur : w.context.settings.Recurring (w.schema.classParams name)) :
    Lockstep [] classes (w.passClass name info)
      (w'.passClass name (w.context.settings.retypeInfo info)) := by
  have hhere := h.beforeClasses name List.mem_cons_self
  simp only [Schema.about, hinfo, Settings.retypeSubclass, Prod.mk.injEq] at hhere
  obtain ⟨hinfo', hitems⟩ := hhere
  simp only [Schema.classParams, hinfo] at hrecur
  obtain ⟨hentry, hrest⟩ := Settings.recurring_append.1 hrecur
  obtain ⟨hmethods, hmid⟩ := constructors_again h.context name hentry
  -- the constructors leave the items of the class alone
  have hsettings := (w.constructors_past name info).settings
  rw [← hsettings] at hitems hrest
  obtain ⟨hmembers, hcontext⟩ := items_again hmid hitems hrest name
  have hlast := (passClass_past hinfo).settings
  constructor
  case context => exact hcontext
  case declaredAliases => exact h.declaredAliases
  case declaredClasses =>
    have hfile : (w.context.settings.retypeInfo info).file = info.file :=
      info.toEntry.withSignatures_file _
    rw [passClass_classes, passClass_classes, h.context, h.declaredClasses, hmethods, hmembers,
      hfile]
    rfl
  case beforeAliases =>
    intro other hother
    exact absurd hother List.not_mem_nil
  case beforeClasses =>
    intro other hother
    have hne : other ≠ name := fun heq => hc (heq ▸ hother)
    rw [hlast, about_passClass_of_ne hinfo hne, about_passClass_of_ne hinfo' hne]
    exact h.beforeClasses other (List.mem_cons_of_mem name hother)

/-- Walks in lockstep are so behind all classes of the root. -/
theorem Lockstep.passAliases {aliases classes : List Text} {w w' : Walk}
    (h : Lockstep aliases classes w w') (hn : aliases.Nodup)
    (hd : ∀ name ∈ classes, name ∉ aliases)
    (hrecur : w.context.settings.Recurring (aliases.flatMap w.schema.itemParams)) :
    Lockstep [] classes (w.passAliases aliases) (w'.passAliases aliases) := by
  induction aliases generalizing w w' with
  | nil => exact h
  | cons name rest ih =>
    obtain ⟨hnot, hrest⟩ := List.nodup_cons.1 hn
    rw [List.flatMap_cons] at hrecur
    obtain ⟨hhere, hlater⟩ := Settings.recurring_append.1 hrecur
    have hclass : name ∉ classes := fun hmem => hd name hmem List.mem_cons_self
    have hstep := h.passAlias hnot hclass hhere
    rw [← w.itemParams_behind_passAlias hnot, ← (w.passAlias_past name).settings] at hlater
    rw [passAliases_cons, passAliases_cons]
    exact ih hstep hrest
      (fun other hmem hin => hd other hmem (List.mem_cons_of_mem name hin)) hlater

/-- Walks in lockstep are so behind all classes of the namespace. -/
theorem Lockstep.passClasses {classes : List Text} {w w' : Walk}
    (h : Lockstep [] classes w w') (hn : classes.Nodup) (hend : (w.passClasses classes).1 = none)
    (hrecur : w.context.settings.Recurring (classes.flatMap w.schema.classParams)) :
    Lockstep [] [] (w.passClasses classes).2 (w'.passClasses classes).2 := by
  induction classes generalizing w w' with
  | nil => exact h
  | cons name rest ih =>
    obtain ⟨hnot, hrest⟩ := List.nodup_cons.1 hn
    rw [List.flatMap_cons] at hrecur
    obtain ⟨hhere, hlater⟩ := Settings.recurring_append.1 hrecur
    have habout := h.beforeClasses name List.mem_cons_self
    cases hinfo : w.schema.classes.get? name with
    | none =>
      simp only [Schema.about, hinfo, Settings.retypeSubclass, Prod.mk.injEq] at habout
      rw [passClasses_cons_none hinfo] at hend ⊢
      rw [passClasses_cons_none habout.1]
      -- the class is in neither documentation, so both walks pass it over
      have hskip : Lockstep [] rest w w' :=
        ⟨h.context, h.declaredAliases, h.declaredClasses, h.beforeAliases,
          fun other hmem => h.beforeClasses other (List.mem_cons_of_mem name hmem)⟩
      exact ih hskip hrest hend hlater
    | some info =>
      simp only [Schema.about, hinfo, Settings.retypeSubclass, Prod.mk.injEq] at habout
      have hc := ((passClasses_eq_none_iff w _).1 hend) name List.mem_cons_self info hinfo
      have hc' : (w.context.settings.retypeInfo info).isConstructor = true := by
        rw [Settings.isConstructor_retypeInfo, hc]
      have hstep := h.passClass hnot hinfo hhere
      rw [← classParams_behind_passClass hinfo hnot, ← (passClass_past hinfo).settings] at hlater
      rw [passClasses_cons_some hinfo hc] at hend ⊢
      rw [passClasses_cons_some habout.1 hc']
      exact ih hstep hrest hend hlater

theorem Lockstep.model {aliases classes : List Text} {w w' : Walk}
    (h : Lockstep aliases classes w w') : w'.model = w.model := by
  simp only [Walk.model, h.context, h.declaredAliases, h.declaredClasses]

end Walk

/-! ### The second build -/

namespace Build

/-- A second walk declares what the first one did if all constant types recur. -/
theorem second_model_eq {settings : Settings} {schema : Schema} {aliases classes : List Text}
    (hparts : settings.Parts schema aliases classes)
    (hdone : (Walk.through settings schema aliases classes).1 = none)
    (hrecur : settings.Recurring (schema.builtParams settings)) :
    (Walk.through settings (settings.retypeSchema aliases classes schema) aliases
        classes).2.model =
      (Walk.through settings schema aliases classes).2.model := by
  obtain ⟨haliases, hclasses⟩ := about_retypeSchema hparts
  have hstart : Walk.Lockstep aliases classes (Walk.start settings schema)
      (Walk.start settings (settings.retypeSchema aliases classes schema)) := by
    refine ⟨?_, rfl, rfl, haliases, hclasses⟩
    simp only [Walk.start, Settings.classNames_retypeSchema]
  simp only [Schema.builtParams, hparts.partition] at hrecur
  obtain ⟨hroot, hspace⟩ := Settings.recurring_append.1 hrecur
  have hmid := hstart.passAliases hparts.aliases_nodup hparts.disjoint hroot
  have hsettings := ((Walk.start settings schema).passAliases_past hparts.aliases_nodup).settings
  have hkept := (Walk.start settings schema).classParams_behind_passAliases
    hparts.aliases_nodup hparts.disjoint
  have hlast := hmid.passClasses hparts.classes_nodup hdone (by rw [hsettings, hkept]; exact hspace)
  exact hlast.model

theorem outline_retypeSchema {settings : Settings} {schema : Schema} {aliases classes : List Text}
    (hparts : settings.Parts schema aliases classes) :
    (settings.retypeSchema aliases classes schema).outline settings = schema.outline settings := by
  obtain ⟨haliases, hclasses⟩ := about_retypeSchema hparts
  have hroot : (aliases.map fun name => Settings.aliasOutline name
        ((settings.retypeSchema aliases classes schema).about name)) =
      aliases.map fun name => Settings.aliasOutline name (schema.about name) := by
    apply List.map_congr_left
    intro name hname
    rw [haliases name hname, Settings.aliasOutline_retypeAlias]
  have hspace : (classes.filterMap fun name => settings.classOutline name
        ((settings.retypeSchema aliases classes schema).about name)) =
      classes.filterMap fun name => settings.classOutline name (schema.about name) := by
    apply List.filterMap_congr
    intro name hname
    rw [hclasses name hname, Settings.classOutline_retypeSubclass]
  simp only [Schema.outline, Settings.classNames_retypeSchema, hparts.partition, hroot, hspace]

/-- The constant types of a model are all registered again exactly if all of their names read as
    the token for constants. -/
theorem recurring_iff {settings : Settings} {schema : Schema} {model : Model}
    (h : (run settings schema).result = .ok model) :
    settings.Recurring (schema.builtParams settings) ↔
      ∀ name ∈ model.constants.keys, name.trim = settings.constantToken := by
  have hkeys : ∀ name, name ∈ model.constants.keys ↔
      name ∈ (settings.registrations (schema.builtParams settings)).map Prod.fst := by
    intro name
    rw [constants_eq h]
    exact Table.mem_keys_ofList
  simp only [hkeys, Settings.Recurring, Settings.readsAsConstant, List.forall_mem_map,
    decide_eq_true_eq]

/-- **What a second build repeats.**  The documentation that a build leaves can be built again.
    The second build leaves it as it is, and its model has the outline of the first one.  Of the
    constant types it finds those whose names read as the token for constants, with the same
    values; so the model is that of the first build exactly if these are all. -/
theorem rebuild_of_build {settings : Settings} {schema : Schema} {model : Model}
    (h : (run settings schema).result = .ok model) :
    ∃ model', (run settings (run settings schema).schema).result = .ok model' ∧
      (run settings (run settings schema).schema).schema = (run settings schema).schema ∧
      model'.outline = model.outline ∧
      model'.constants.entries =
        model.constants.entries.filter (fun e => e.1.trim = settings.constantToken) ∧
      (model' = model ↔ ∀ name ∈ model.constants.keys, name.trim = settings.constantToken) := by
  obtain ⟨aliases, classes, hparts, hdone, hmodel, hschema⟩ := run_eq_ok h
  have hbehind := hschema.trans (walk_end hparts hdone).1
  obtain ⟨hparts', hdone'⟩ := second_walk_ends hparts hdone
  have hbuilt := builtParams_retyped h
  rw [hbehind] at hbuilt ⊢
  have hrun := run_of_walk hparts' hdone'
  have hequal := second_model_eq hparts hdone
  rw [hmodel] at hequal
  generalize (Walk.through settings (settings.retypeSchema aliases classes schema) aliases
    classes).2.model = model' at hrun hequal
  have hagain : (run settings (settings.retypeSchema aliases classes schema)).result =
      .ok model' := by rw [hrun]
  -- the second build registers again what reads as the token for constants, and nothing else
  have hconstants : model'.constants.entries =
      model.constants.entries.filter (fun e => e.1.trim = settings.constantToken) := by
    rw [constants_eq hagain, constants_eq h, hbuilt, Settings.registrations_retypeAll]
    exact Table.entries_insertAll_filter settings.readsAsConstant .empty _ rfl
  refine ⟨model', hagain, ?_, ?_, hconstants, ?_⟩
  · rw [hrun]
    exact (walk_end hparts' hdone').1.trans (retypeSchema_retypeSchema hparts)
  · rw [outline_build hagain, outline_build h, outline_retypeSchema hparts]
  · constructor
    · intro heq name hname
      rw [heq] at hconstants
      obtain ⟨e, he, rfl⟩ := List.mem_map.1 hname
      exact of_decide_eq_true (List.filter_eq_self.1 hconstants.symm e he)
    · intro hall
      exact hequal ((recurring_iff h).2 hall)

/-! ### A method with a constant type -/

def endShapeItem : ItemDoc where
  params := [⟨"mode", some "Constant", true, []⟩]
  returned := none
  isStatic := false
  isChainable := false
  line := some 10
  file := "src/shape.js"
  description := []
  isConstructor := false
  overloads := none
  name := "endShape"
  owner := "p5"
  kind := .method
  type := none
  defaultValue := none
  isFinal := false

def endShapeSchema : Schema :=
  ⟨.ofList [("p5", ⟨⟨⟨[], none, false, false, none⟩, [], [], false, none, "p5"⟩, none⟩)],
    [endShapeItem]⟩

/-- A second build finds the method as the first one did, without its constant type. -/
theorem rebuild_of_build_endShape :
    ∃ model model', (run .standard endShapeSchema).result = .ok model ∧
      (run .standard (run .standard endShapeSchema).schema).result = .ok model' ∧
      model'.outline = model.outline ∧ model'.constants.entries = [] ∧ model' ≠ model := by
  have hbuilt : ((run .standard endShapeSchema).result.map fun m => m.constants.entries).toOption =
      some ([("END_MODE", ["CLOSE"])] : List (Text × List Text)) := by decide +kernel
  obtain ⟨model, hmodel, hentries⟩ := exists_ok_of_map hbuilt
  obtain ⟨model', hagain, -, houtline, hconstants, heq⟩ := rebuild_of_build hmodel
  refine ⟨model, model', hmodel, hagain, houtline, ?_, ?_⟩
  · rw [hconstants, hentries]
    decide +kernel
  · rw [Ne, heq]
    intro hall
    have hname := hall "END_MODE" (by simp only [Table.keys, hentries]; decide +kernel)
    exact absurd hname (by decide +kernel)

/-- The constant type is declared by the first build, and unknown to the second one. -/
theorem rebuild_ne_build_endShape :
    ∃ model model', (run .standard endShapeSchema).result = .ok model ∧
      (run .standard (run .standard endShapeSchema).schema).result = .ok model' ∧
      model.constants.keys = ["END_MODE"] ∧ model.unknownTypes.keys = [] ∧
      model'.constants.keys = [] ∧ model'.unknownTypes.keys = ["END_MODE"] ∧
      model' ≠ model := by
  have hfirst : ((run .standard endShapeSchema).result.map fun m =>
      (m.constants.keys, m.unknownTypes.keys)).toOption =
        some ((["END_MODE"], []) : List Text × List Text) := by decide +kernel
  have hsecond : ((run .standard (run .standard endShapeSchema).schema).result.map fun m =>
      (m.constants.keys, m.unknownTypes.keys)).toOption =
        some (([], ["END_MODE"]) : List Text × List Text) := by decide +kernel
  obtain ⟨model, hmodel, hkeys⟩ := exists_ok_of_map hfirst
  obtain ⟨model', hmodel', hkeys'⟩ := exists_ok_of_map hsecond
  obtain ⟨hconstants, hunknown⟩ := Prod.mk.inj hkeys
  obtain ⟨hconstants', hunknown'⟩ := Prod.mk.inj hkeys'
  refine ⟨model, model', hmodel, hmodel', hconstants, hunknown, hconstants', hunknown', ?_⟩
  rintro rfl
  exact nomatch hconstants.symm.trans hconstants'

end Build

end Ambient
