/-
  Ambient/Proofs/Coverage.lean
  ============================
  **What is documented is declared, each part once.**

  The relations of this file tell which members stand for what is documented: a method for each
  signature of an entry (`Entry.Declares`), and for an item as many members as its kind calls for
  (`ItemDoc.Declares`).  They leave open what the types make of a member.

  A build goes through the items once for each class and takes those of the class.  Because every
  class is met once, what it takes from the list of items, over all classes, is what documented
  classes have there (`Schema.perm_itemsFor`): no item is lost and none comes twice.
-/
import Ambient.Proofs.Outline
import Mathlib.Data.List.Forall2
import Mathlib.Data.List.Perm.Basic

namespace Ambient

/-! ### Members that stand for documentation -/

/-- A method that stands for one signature of an entry. -/
structure Entry.Declares (e : Entry) (s : Signature) (m : MethodDecl) : Prop where
  name : m.name = e.name
  file : m.file = e.file
  description : m.description = e.description
  isConstructor : m.isConstructor = e.isConstructor
  isStatic : m.isStatic = s.isStatic
  line : m.line = s.line

/-- Members that stand for an item. -/
inductive ItemDoc.Declares (item : ItemDoc) : List Member → Prop where
  | method (decls : List MethodDecl) : item.kind = .method →
      List.Forall₂ item.toEntry.Declares item.signatures decls →
      item.Declares (decls.map .method)
  | property (p : PropertyDecl) : item.kind = .property →
      p.name = item.name → p.file = item.file → item.Declares [.property p]
  | unsupported (label : Text) : item.kind = .other label →
      item.Declares [.unsupported ⟨item.name, label, item.file⟩]

inductive ItemDoc.DeclareAll : List ItemDoc → List Member → Prop where
  | nil : DeclareAll [] []
  | cons {item : ItemDoc} {items : List ItemDoc} {here more : List Member} :
      item.Declares here → DeclareAll items more → DeclareAll (item :: items) (here ++ more)

namespace Schema

structure DeclaresAlias (schema : Schema) (className : Text) (b : AliasBlock) : Prop where
  named : b.className = className
  members : ItemDoc.DeclareAll (schema.itemsFor className) b.members

/-- A declaration that stands for a class of the namespace: its constructors come first. -/
structure DeclaresClass (schema : Schema) (className : Text) (c : ClassDecl) : Prop where
  named : c.className = className
  members : ∃ info constructors members,
    schema.classes.get? className = some info ∧
      List.Forall₂ info.toEntry.Declares info.signatures constructors ∧
      ItemDoc.DeclareAll (schema.itemsFor className) members ∧
      c.members = constructors.map .method ++ members

end Schema

/-! ### From outlines -/

theorem Entry.declares_of_outline {e : Entry} {s : Signature} {m : MethodDecl}
    (h : m.outline = e.methodOutline s) : e.Declares s m := by
  simp only [MethodDecl.outline, Entry.methodOutline, MethodDecl.mk.injEq] at h
  obtain ⟨hname, -, -, hconstructor, hstatic, hdescription, hfile, hline, -⟩ := h
  exact ⟨hname, hfile, hdescription, hconstructor, hstatic, hline⟩

theorem Member.exists_method_of_outline {m : Member} {d : MethodDecl}
    (h : m.outline = .method d) : ∃ decl, m = .method decl ∧ decl.outline = d := by
  cases m with
  | method decl => exact ⟨decl, rfl, Member.method.inj h⟩
  | property p => exact nomatch h
  | unsupported u => exact nomatch h

/-- Members with the outlines of methods are methods. -/
theorem Entry.exists_methods {e : Entry} {signatures : List Signature} {members : List Member}
    (h : members.map Member.outline = (signatures.map e.methodOutline).map .method) :
    ∃ decls, members = decls.map .method ∧ List.Forall₂ e.Declares signatures decls := by
  induction signatures generalizing members with
  | nil => exact ⟨[], List.map_eq_nil_iff.1 h, .nil⟩
  | cons s rest ih =>
    obtain ⟨m, more, rfl, hfirst, hmore⟩ := List.map_eq_cons_iff.1 h
    obtain ⟨decl, rfl, hdecl⟩ := Member.exists_method_of_outline hfirst
    obtain ⟨decls, rfl, hdecls⟩ := ih hmore
    exact ⟨decl :: decls, rfl, .cons (declares_of_outline hdecl) hdecls⟩

theorem ItemDoc.declares_of_outline {item : ItemDoc} {members : List Member}
    (h : members.map Member.outline = item.outline) : item.Declares members := by
  unfold ItemDoc.outline at h
  cases hk : item.kind with
  | method =>
    rw [hk] at h
    obtain ⟨decls, rfl, hdecls⟩ := Entry.exists_methods h
    exact .method decls hk hdecls
  | property =>
    rw [hk] at h
    -- with a name that can be declared or without, it is one property
    have hone : ∃ p : PropertyDecl, members.map Member.outline = [.property p] ∧
        p.name = item.name ∧ p.file = item.file := by
      dsimp only at h
      split at h
      · exact ⟨_, h, rfl, rfl⟩
      · exact ⟨_, h, rfl, rfl⟩
    obtain ⟨p, hmembers, hname, hfile⟩ := hone
    obtain ⟨m, rfl, hm⟩ := List.map_eq_singleton_iff.1 hmembers
    cases m with
    | method decl => exact nomatch hm
    | property q =>
      cases hm
      exact .property q hk hname hfile
    | unsupported u => exact nomatch hm
  | other label =>
    rw [hk] at h
    obtain ⟨m, rfl, hm⟩ := List.map_eq_singleton_iff.1 h
    cases m with
    | method decl => exact nomatch hm
    | property q => exact nomatch hm
    | unsupported u =>
      cases hm
      exact .unsupported label hk

theorem ItemDoc.declareAll_of_outline {items : List ItemDoc} {members : List Member}
    (h : members.map Member.outline = items.flatMap ItemDoc.outline) :
    ItemDoc.DeclareAll items members := by
  induction items generalizing members with
  | nil =>
    rw [List.map_eq_nil_iff.1 h]
    exact .nil
  | cons item rest ih =>
    rw [List.flatMap_cons] at h
    obtain ⟨here, more, rfl, hhere, hmore⟩ := List.map_eq_append_iff.1 h
    exact .cons (declares_of_outline hhere) (ih hmore)

theorem Schema.declaresAlias_of_outline {schema : Schema} {className : Text} {b : AliasBlock}
    (h : b.outline = Settings.aliasOutline className (schema.about className)) :
    schema.DeclaresAlias className b := by
  simp only [AliasBlock.outline, Settings.aliasOutline, AliasBlock.mk.injEq] at h
  exact ⟨h.1, ItemDoc.declareAll_of_outline h.2⟩

theorem Schema.declaresClass_of_outline {settings : Settings} {schema : Schema}
    {className : Text} {c : ClassDecl}
    (h : settings.classOutline className (schema.about className) = some c.outline) :
    schema.DeclaresClass className c := by
  obtain ⟨info, hinfo, houtline⟩ := Settings.classOutline_eq_some h
  simp only [ClassDecl.outline, ClassDecl.mk.injEq] at houtline
  obtain ⟨hname, -, -, -, hmembers⟩ := houtline
  obtain ⟨first, more, hcut, hfirst, hmore⟩ := List.map_eq_append_iff.1 hmembers
  obtain ⟨constructors, rfl, hconstructors⟩ := Entry.exists_methods hfirst
  exact ⟨hname, info, constructors, more, hinfo, hconstructors,
    ItemDoc.declareAll_of_outline hmore, hcut⟩

/-! ### The items of all classes -/

/-- Classes that are all different have, together, the named items that have one of them. -/
theorem Schema.perm_itemsFor (schema : Schema) {names : List Text} (hn : names.Nodup) :
    (names.flatMap schema.itemsFor).Perm
      (schema.items.filter fun item => decide (item.owner ∈ names) && !item.name.isEmpty) := by
  induction names with
  | nil => simp
  | cons name rest ih =>
    rcases List.nodup_cons.1 hn with ⟨hnot, hrest⟩
    let all := schema.items.filter fun item =>
      decide (item.owner ∈ name :: rest) && !item.name.isEmpty
    have hfirst : all.filter (fun item => decide (item.owner = name)) = schema.itemsFor name := by
      rw [List.filter_filter]
      apply List.filter_congr
      intro item _
      by_cases howner : item.owner = name <;> simp [Schema.belongs, howner]
    -- `name` does not come again, so an item of another class is one of the rest
    have hmore : all.filter (fun item => !decide (item.owner = name)) =
        schema.items.filter fun item => decide (item.owner ∈ rest) && !item.name.isEmpty := by
      rw [List.filter_filter]
      apply List.filter_congr
      intro item _
      by_cases howner : item.owner = name
      · simp [howner, hnot]
      · simp [howner]
    rw [List.flatMap_cons]
    refine ((ih hrest).append_left _).trans ?_
    rw [← hfirst, ← hmore]
    exact List.filter_append_perm _ _

/-! ### Builds -/

theorem forall₂_of_filterMap {α β γ : Type} {f : α → Option β} {g : γ → β} {l : List α}
    {cs : List γ} (hf : ∀ a ∈ l, f a ≠ none) (h : cs.map g = l.filterMap f) :
    List.Forall₂ (fun a c => f a = some (g c)) l cs := by
  induction l generalizing cs with
  | nil =>
    rw [List.map_eq_nil_iff.1 h]
    exact .nil
  | cons a rest ih =>
    rw [List.forall_mem_cons] at hf
    obtain ⟨b, hb⟩ := Option.ne_none_iff_exists'.1 hf.1
    rw [List.filterMap_cons_some hb] at h
    obtain ⟨c, more, rfl, rfl, hmore⟩ := List.map_eq_cons_iff.1 h
    exact .cons hb (ih hf.2 hmore)

theorem map_eq_of_forall₂ {α β γ : Type} {R : α → β → Prop} {f : α → γ} {g : β → γ}
    (hR : ∀ a b, R a b → g b = f a) {l : List α} {bs : List β} (h : List.Forall₂ R l bs) :
    bs.map g = l.map f := by
  induction h with
  | nil => rfl
  | cons hfirst _ ih => rw [List.map_cons, List.map_cons, hR _ _ hfirst, ih]

namespace Build

theorem declaresAliases_of_run {settings : Settings} {schema : Schema} {model : Model}
    (h : (run settings schema).result = .ok model) :
    List.Forall₂ schema.DeclaresAlias (schema.classNames.filter (· ∈ settings.aliases))
      model.aliases := by
  have houtline := outline_build h
  obtain ⟨aliases, classes, hparts, -⟩ := run_eq_ok h
  obtain ⟨rfl, rfl⟩ := Settings.partition_eq_ok hparts.partition
  simp only [Schema.outline, hparts.partition, Model.outline, Model.mk.injEq] at houtline
  obtain ⟨-, haliases, -⟩ := houtline
  have houtlines := haliases.trans (congrFun List.filterMap_eq_map.symm _)
  refine (forall₂_of_filterMap ?_ houtlines).imp ?_
  · intro name _
    exact Option.some_ne_none _
  · intro name b hb
    exact Schema.declaresAlias_of_outline (Option.some.inj hb).symm

theorem classOutlines_of_run {settings : Settings} {schema : Schema} {model : Model}
    (h : (run settings schema).result = .ok model) :
    List.Forall₂ (fun name c =>
        settings.classOutline name (schema.about name) = some (ClassDecl.outline c))
      (schema.classNames.filter (· ∉ settings.aliases)) model.classes := by
  have houtline := outline_build h
  obtain ⟨aliases, classes, hparts, -⟩ := run_eq_ok h
  obtain ⟨rfl, rfl⟩ := Settings.partition_eq_ok hparts.partition
  simp only [Schema.outline, hparts.partition, Model.outline, Model.mk.injEq] at houtline
  obtain ⟨-, -, hclasses, -⟩ := houtline
  refine forall₂_of_filterMap ?_ hclasses
  intro name hname
  obtain ⟨info, hinfo⟩ := Table.mem_keys_iff.1 (List.mem_of_mem_filter hname)
  simp only [Schema.about, hinfo, Settings.classOutline]
  exact Option.some_ne_none _

/-- **What is documented is declared, each part once.**  A build that succeeds has a block for
    each documented class that the settings have as a name of the root, and a declaration for
    each other documented class, in the order of documentation and with the members that their
    documentation calls for.  The items that these classes have, taken together, are the named
    items of documented classes, each as often as it is documented. -/
theorem covers_documentation {settings : Settings} {schema : Schema} {model : Model}
    (h : (run settings schema).result = .ok model) :
    List.Forall₂ schema.DeclaresAlias (schema.classNames.filter (· ∈ settings.aliases))
      model.aliases ∧
    List.Forall₂ schema.DeclaresClass (schema.classNames.filter (· ∉ settings.aliases))
      model.classes ∧
    schema.classNames.Nodup ∧
    ((model.aliases.map AliasBlock.className ++ model.classes.map ClassDecl.className).flatMap
      schema.itemsFor).Perm
        (schema.items.filter fun item =>
          decide (item.owner ∈ schema.classNames) && !item.name.isEmpty) := by
  have haliases := declaresAliases_of_run h
  have hclasses : List.Forall₂ schema.DeclaresClass
      (schema.classNames.filter (· ∉ settings.aliases)) model.classes :=
    (classOutlines_of_run h).imp fun _ _ => Schema.declaresClass_of_outline
  refine ⟨haliases, hclasses, schema.classes.keys_nodup, ?_⟩
  rw [map_eq_of_forall₂ (fun _ _ hb => hb.named) haliases,
    map_eq_of_forall₂ (fun _ _ hc => hc.named) hclasses, List.map_id', List.map_id']
  have hnames : (schema.classNames.filter (· ∈ settings.aliases) ++
      schema.classNames.filter (· ∉ settings.aliases)).Perm schema.classNames := by
    simpa only [decide_not] using List.filter_append_perm _ schema.classNames
  exact (hnames.flatMap_right _).trans (schema.perm_itemsFor schema.classes.keys_nodup)

/-! ### A documentation with all kinds of items -/

def coverItem (owner name : Text) (kind : ItemKind) (overloads : Option (List Signature)) :
    ItemDoc where
  params := []
  returned := none
  isStatic := false
  isChainable := false
  line := some 7
  file := "src/shape.js"
  description := []
  isConstructor := false
  overloads := overloads
  name := name
  owner := owner
  kind := kind
  type := none
  defaultValue := none
  isFinal := false

def closeItem : ItemDoc :=
  coverItem "p5.Shape" "close" .method
    (some [⟨[], none, false, false, some 8⟩, ⟨[], none, true, false, some 9⟩])

def widthItem : ItemDoc := coverItem "p5" "width" .property none

def movedItem : ItemDoc := coverItem "p5.Shape" "moved" (.other "event") none

/-- Two overloads, a property, an event, an item without a name, and one of a class that is not
    documented. -/
def coverSchema : Schema :=
  ⟨.ofList [
      ("p5.Shape", ⟨⟨⟨[], none, false, false, some 3⟩, "src/shape.js", [], true, none, "p5.Shape"⟩,
        none⟩),
      ("p5", ⟨⟨⟨[], none, false, false, none⟩, [], [], false, none, "p5"⟩, none⟩)],
    [closeItem, widthItem, coverItem "p5.Shape" [] .method none,
      coverItem "p5.Sound" "play" .method none, movedItem]⟩

theorem build_coverSchema :
    ((run .standard coverSchema).result.map fun m => m.classes.map fun c => c.members.length
      ).toOption = some [4] := by decide +kernel

/-- The class has its constructor, both overloads and the event; the other two items are left
    out. -/
theorem covers_documentation_shape :
    ∃ model, (run .standard coverSchema).result = .ok model ∧
      List.Forall₂ coverSchema.DeclaresAlias ["p5"] model.aliases ∧
      List.Forall₂ coverSchema.DeclaresClass ["p5.Shape"] model.classes ∧
      ((model.aliases.map AliasBlock.className ++
        model.classes.map ClassDecl.className).flatMap coverSchema.itemsFor).Perm
          [closeItem, widthItem, movedItem] := by
  obtain ⟨model, hmodel, -⟩ := exists_ok_of_map build_coverSchema
  obtain ⟨haliases, hclasses, -, hitems⟩ := covers_documentation hmodel
  have hnames : coverSchema.classNames.filter (· ∈ Settings.standard.aliases) = ["p5"] := by
    decide +kernel
  have hothers : coverSchema.classNames.filter (· ∉ Settings.standard.aliases) =
      ["p5.Shape"] := by
    decide +kernel
  rw [hnames] at haliases
  rw [hothers] at hclasses
  refine ⟨model, hmodel, haliases, hclasses, ?_⟩
  convert hitems using 1
  decide +kernel

end Build

end Ambient
