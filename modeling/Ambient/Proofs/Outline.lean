/-
  Ambient/Proofs/Outline.lean
  ===========================
  **What of a model is settled before anything is translated.**

  Which members a model has, in which order, under which names, with which flags and from which
  files: all of this stands in the documentation already, and neither the types nor the constants
  that are found on the way have a part in it.  The `outline` of a model leaves the rest out.  It
  is computed from the documentation class by class (`Schema.outline`), and a model that was built
  has that outline (`outline_build`).
-/
import Ambient.Proofs.BuildWalk

namespace Ambient

/-! ### Outlines of declarations -/

/-- The method without what its types make: the texts of its parameters and of its return type,
    and its errors. -/
def MethodDecl.outline (m : MethodDecl) : MethodDecl :=
  { m with params := m.params.map fun _ => [], returnType := [], errors := [] }

/-- The property without its type, and without the value, which depends on it. -/
def PropertyDecl.outline (p : PropertyDecl) : PropertyDecl := { p with type := [], value := none }

def Member.outline : Member → Member
  | method m => method m.outline
  | property p => property p.outline
  | unsupported u => unsupported u

def AliasBlock.outline (b : AliasBlock) : AliasBlock :=
  { b with members := b.members.map Member.outline }

def ClassDecl.outline (c : ClassDecl) : ClassDecl :=
  { c with members := c.members.map Member.outline }

/-- The model with the outlines of its members, and without its constant types and unknown types. -/
def Model.outline (m : Model) : Model :=
  ⟨m.rootName, m.aliases.map AliasBlock.outline, m.classes.map ClassDecl.outline, .empty, .empty⟩

/-! ### Outlines of documentation -/

def Entry.methodOutline (e : Entry) (s : Signature) : MethodDecl :=
  { name := e.name, params := s.params.map fun _ => [], returnType := [],
    isConstructor := e.isConstructor, isStatic := s.isStatic, description := e.description,
    file := e.file, line := s.line, errors := [] }

def Entry.outline (e : Entry) : List MethodDecl := e.signatures.map e.methodOutline

def ItemDoc.outline (item : ItemDoc) : List Member :=
  match item.kind with
  | .method => item.toEntry.outline.map .method
  | .property =>
    if isSymbol item.name then
      [.property ⟨item.name, [], none, item.isFinal, item.description, item.file, true⟩]
    else [.property ⟨item.name, [], none, false, [], item.file, false⟩]
  | .other label => [.unsupported ⟨item.name, label, item.file⟩]

namespace Settings

def aliasOutline (name : Text) (about : Option ClassDoc × List ItemDoc) : AliasBlock :=
  ⟨name, about.2.flatMap ItemDoc.outline⟩

def classOutline (s : Settings) (name : Text) :
    Option ClassDoc × List ItemDoc → Option ClassDecl
  | (none, _) => none
  | (some info, items) =>
    some {
      className := name
      name := (s.subclassName? name).getD name
      parent := Walk.parentName s info.parent
      file := info.file
      members := info.toEntry.outline.map .method ++ items.flatMap ItemDoc.outline }

theorem classOutline_eq_some {s : Settings} {schema : Schema} {className : Text}
    {c : ClassDecl} (h : s.classOutline className (schema.about className) = some c) :
    ∃ info, schema.classes.get? className = some info ∧
      c = ⟨className, (s.subclassName? className).getD className,
        Walk.parentName s info.parent, info.file,
        info.toEntry.outline.map .method ++
          (schema.itemsFor className).flatMap ItemDoc.outline⟩ := by
  unfold Schema.about at h
  cases hinfo : schema.classes.get? className with
  | none =>
    rw [hinfo] at h
    cases h
  | some info =>
    rw [hinfo] at h
    exact ⟨info, rfl, (Option.some.inj h).symm⟩

end Settings

def Schema.outline (settings : Settings) (schema : Schema) : Model :=
  match settings.partition schema.classNames with
  | .error _ => ⟨settings.rootName, [], [], .empty, .empty⟩
  | .ok (aliases, classes) =>
    ⟨settings.rootName, aliases.map fun name => Settings.aliasOutline name (schema.about name),
      classes.filterMap fun name => settings.classOutline name (schema.about name),
      .empty, .empty⟩

/-! ### Members -/

namespace Context

theorem outline_buildSignature (ctx : Context) (e : Entry) (owner : Text) (s : Signature) :
    (ctx.buildSignature e owner s).1.outline = e.methodOutline s := by
  simp only [buildSignature, inferConstants_eq, MethodDecl.outline, Entry.methodOutline,
    translateParams_fst, List.map_map, Function.comp_def]

theorem outline_buildSignatures (ctx : Context) (e : Entry) (owner : Text)
    (signatures : List Signature) :
    (ctx.buildSignatures e owner signatures).1.map MethodDecl.outline =
      signatures.map e.methodOutline := by
  induction signatures generalizing ctx with
  | nil => rfl
  | cons s rest ih =>
    simp only [buildSignatures, List.map_cons, outline_buildSignature, ih]

theorem outline_buildMethod (ctx : Context) (e : Entry) (owner : Text) :
    (ctx.buildMethod e owner).1.map MethodDecl.outline = e.outline :=
  ctx.outline_buildSignatures e owner e.signatures

theorem outline_buildItem (ctx : Context) (owner : Text) (item : ItemDoc) :
    (ctx.buildItem owner item).1.map Member.outline = item.outline := by
  unfold ItemDoc.outline
  cases hk : item.kind with
  | method =>
    have hmethod := (ctx.inFile item.file).outline_buildMethod item.toEntry owner
    simp only [buildItem, hk, ← hmethod, List.map_map]
    rfl
  | property =>
    simp only [buildItem, hk, buildProperty]
    split <;> rfl
  | other label => simp only [buildItem, hk, List.map_cons, List.map_nil, Member.outline]

theorem outline_buildItems (ctx : Context) (className owner : Text) (items : List ItemDoc) :
    (ctx.buildItems className owner items).1.map Member.outline =
      (items.filter (Schema.belongs className)).flatMap ItemDoc.outline := by
  induction items generalizing ctx with
  | nil => rfl
  | cons item rest ih =>
    by_cases h : Schema.belongs className item = true
    · rw [List.filter_cons_of_pos h]
      simp only [buildItems_cons_pos h, List.map_append, outline_buildItem, ih, List.flatMap_cons]
    · rw [List.filter_cons_of_neg h]
      simp only [buildItems_cons_neg h, ih]

end Context

/-! ### Walks -/

namespace Walk

def outline (w : Walk) : List AliasBlock × List ClassDecl :=
  (w.aliases.map AliasBlock.outline, w.classes.map ClassDecl.outline)

theorem outline_passAlias (w : Walk) (name : Text) :
    (w.passAlias name).outline =
      (w.outline.1 ++ [Settings.aliasOutline name (w.schema.about name)], w.outline.2) := by
  simp only [outline, passAlias, items, List.map_append, List.map_cons, List.map_nil,
    AliasBlock.outline, Context.outline_buildItems]
  rfl

theorem outline_passClass {w : Walk} {name : Text} {info : ClassDoc}
    (h : w.schema.classes.get? name = some info) :
    (w.passClass name info).outline =
      (w.outline.1,
        w.outline.2 ++ (w.context.settings.classOutline name (w.schema.about name)).toList) := by
  have hmethod := (w.context.inFile info.file).outline_buildMethod info.toEntry info.name
  simp only [outline, passClass, items, List.map_append, List.map_cons, List.map_nil,
    ClassDecl.outline, Context.outline_buildItems, Schema.about, h, Settings.classOutline,
    Option.toList_some, ← hmethod, List.map_map]
  rfl

theorem outline_passAliases (w : Walk) {names : List Text} (hn : names.Nodup) :
    (w.passAliases names).outline =
      (w.outline.1 ++ names.map fun name => Settings.aliasOutline name (w.schema.about name),
        w.outline.2) := by
  induction names generalizing w with
  | nil =>
    change w.outline = _
    rw [List.map_nil, List.append_nil]
  | cons first rest ih =>
    obtain ⟨hnot, hrest⟩ := List.nodup_cons.1 hn
    have hlater : (rest.map fun name => Settings.aliasOutline name
          ((w.passAlias first).schema.about name)) =
        rest.map fun name => Settings.aliasOutline name (w.schema.about name) := by
      apply List.map_congr_left
      intro name hname
      rw [about_passAlias_of_ne]
      rintro rfl
      exact hnot hname
    rw [passAliases_cons, ih _ hrest, outline_passAlias, hlater, List.map_cons, List.append_assoc,
      List.singleton_append]

theorem outline_passClasses {w : Walk} {names : List Text} (hn : names.Nodup)
    (h : (w.passClasses names).1 = none) :
    (w.passClasses names).2.outline =
      (w.outline.1, w.outline.2 ++ names.filterMap fun name =>
        w.context.settings.classOutline name (w.schema.about name)) := by
  induction names generalizing w with
  | nil =>
    change w.outline = _
    rw [List.filterMap_nil, List.append_nil]
  | cons first rest ih =>
    obtain ⟨hnot, hrest⟩ := List.nodup_cons.1 hn
    cases hinfo : w.schema.classes.get? first with
    | none =>
      have hnone : w.context.settings.classOutline first (w.schema.about first) = none := by
        simp only [Schema.about, hinfo, Settings.classOutline]
      rw [passClasses_cons_none hinfo] at h ⊢
      rw [ih hrest h, List.filterMap_cons]
      simp only [hnone]
    | some info =>
      have hc := ((passClasses_eq_none_iff w _).1 h) first List.mem_cons_self info hinfo
      have hlater : (rest.filterMap fun name => w.context.settings.classOutline name
            ((w.passClass first info).schema.about name)) =
          rest.filterMap fun name =>
            w.context.settings.classOutline name (w.schema.about name) := by
        -- no class comes twice, so what is documented of the others stays
        apply List.filterMap_congr
        intro name hname
        rw [about_passClass_of_ne hinfo]
        rintro rfl
        exact hnot hname
      rw [passClasses_cons_some hinfo hc] at h ⊢
      rw [ih hrest h, (passClass_past hinfo).settings, outline_passClass hinfo, hlater,
        List.filterMap_cons]
      cases w.context.settings.classOutline first (w.schema.about first) <;> simp

end Walk

namespace Build

/-- **The outline of a model is the outline of the documentation that it was built from.** -/
theorem outline_build {settings : Settings} {schema : Schema} {model : Model}
    (h : (run settings schema).result = .ok model) : model.outline = schema.outline settings := by
  obtain ⟨aliases, classes, hparts, hdone, rfl, -⟩ := run_eq_ok h
  have hstart := (Walk.start settings schema).outline_passAliases hparts.aliases_nodup
  have hend := Walk.outline_passClasses hparts.classes_nodup hdone
  have hsettings := ((Walk.start settings schema).passAliases_past hparts.aliases_nodup).settings
  have hroot : (Walk.through settings schema aliases classes).2.context.settings = settings :=
    (walk_end hparts hdone).2.settings
  have hrest : (classes.filterMap fun name => settings.classOutline name
        (((Walk.start settings schema).passAliases aliases).schema.about name)) =
      classes.filterMap fun name => settings.classOutline name (schema.about name) := by
    apply List.filterMap_congr
    intro name hname
    rw [Walk.about_passAliases_of_notMem _ hparts.aliases_nodup (hparts.disjoint name hname)]
    rfl
  rw [hstart, hsettings] at hend
  obtain ⟨haliases, hclasses⟩ := Prod.mk.inj hend
  change List.map AliasBlock.outline (Walk.through settings schema aliases classes).2.aliases = _
    at haliases
  change List.map ClassDecl.outline (Walk.through settings schema aliases classes).2.classes = _
    at hclasses
  simp only [Model.outline, Walk.model, Schema.outline, hparts.partition, hroot, haliases,
    hclasses, ← hrest]
  rfl

end Build

end Ambient
