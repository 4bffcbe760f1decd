/-
  Ambient/Proofs/DeclaredMembers.lean
  ===================================
  **Which members of a built model are declared in one of the two files.**

  The members of the root class are declared in the global form, methods and properties alike.  The
  members of a class in the namespace are declared in the module form, where a final property is
  left out.  A declaration stands in its file on lines of its own (`Text.Shows`), and it is no
  comment, because the name it begins with is a symbol: a build gives an objection to every other
  name of a method (`Member.Declarable`, `declarable_of_run`), and marks every other name of a
  property.

  So of the members that a build finds nothing wrong with, all are declared but the final
  properties of classes in the namespace (`Build.members_declared`).
-/
import Ambient.Proofs.Attribution
import Ambient.Proofs.CommentedMembers

namespace Ambient

open Text (filledLines commentMark)
open Sheet (commentLines indentation margin)

/-! ### Names that begin no comment -/

theorem exists_of_isSymbol {name : Text} (h : isSymbol name = true) :
    ∃ c rest, name = c :: rest ∧ c ≠ '/' := by
  cases name with
  | nil => exact nomatch h
  | cons c rest =>
    refine ⟨c, rest, rfl, ?_⟩
    rintro rfl
    simp only [isSymbol, Bool.and_eq_true] at h
    exact absurd h.1 (by decide)

theorem not_comment_of_ne {c : CodePoint} (h : c ≠ '/') (rest : Text) :
    ¬ commentMark <+: c :: rest := by
  intro hmark
  have hslash : commentMark = .scalar '/' :: [.scalar '/'] := rfl
  rw [hslash, List.cons_prefix_cons] at hmark
  exact h hmark.1.symm

namespace Member

/-- What a build sees to: a method has a name that can be declared or an objection, and so has a
    property. -/
def Declarable : Member → Prop
  | method m => m.errors = [] → m.isConstructor = true ∨ isSymbol m.name = true
  | property p => p.isValid = true → isSymbol p.name = true
  | unsupported _ => True

theorem declarable_of_origin (ctx : Context) (o : Origin) : (o.member ctx).Declarable := by
  cases o with
  | unsupported item label => trivial
  | property item =>
    simp only [Origin.member, Context.buildProperty]
    split
    · next hsymbol => exact fun _ => hsymbol
    · intro h
      cases h
  | signature e owner s =>
    intro herrors
    have hobjections : (((ctx.inFile e.file).inferConstants e.name s.params).2.objections e
        { s with params := ((ctx.inFile e.file).inferConstants e.name s.params).1 }).1 = [] :=
      List.map_eq_nil_iff.1 herrors
    -- the objection to the name comes first
    have hname : (if e.isConstructor || isSymbol e.name then [] else
        [Objection.memberName e.name]) = [] :=
      (List.append_eq_nil_iff.1 (List.append_eq_nil_iff.1 hobjections).1).1
    split at hname
    · next h =>
      have hdeclarable : e.isConstructor = true ∨ isSymbol e.name = true := by simpa using h
      exact hdeclarable
    · cases hname

end Member

theorem Context.declarable_of_constructions {origins : List Origin} :
    ∀ (ctx : Context), ∀ c ∈ ctx.constructions origins, c.member.Declarable := by
  induction origins with
  | nil =>
    intro ctx c h
    cases h
  | cons o rest ih =>
    intro ctx c h
    rcases List.mem_cons.1 h with rfl | h
    · exact Member.declarable_of_origin ctx o
    · exact ih _ c h

/-- The members of a built model are declarable. -/
theorem Build.declarable_of_run {settings : Settings} {schema : Schema} {model : Model}
    (h : (run settings schema).result = .ok model) : ∀ m ∈ model.members, m.Declarable := by
  obtain ⟨hmembers, -, -⟩ := makes_of_run h
  intro m hm
  rw [← hmembers] at hm
  obtain ⟨c, hc, rfl⟩ := List.mem_map.1 hm
  exact Context.declarable_of_constructions _ c hc

/-! ### Declarations that a file shows -/

/-- A file shows a declaration at a level if it has its lines one after the other, and the
    declaration is no comment. -/
structure Text.Shows (file : Text) (level : Nat) (declaration : Text) : Prop where
  lines : (filledLines declaration).map (margin level ++ ·) <:+: filledLines file
  uncommented : ¬ commentMark <+: declaration

theorem infix_flatMap {α β : Type} {f : α → List β} {items : List α} {item : α}
    (h : item ∈ items) : f item <:+: items.flatMap f := by
  obtain ⟨first, more, rfl⟩ := List.append_of_mem h
  rw [List.flatMap_append, List.flatMap_cons]
  exact ⟨first.flatMap f, more.flatMap f, List.append_assoc _ _ _⟩

/-- What stands in the lines of a member of the root class, stands in the global form. -/
theorem Model.infix_globalLines {m : Model} {b : AliasBlock} (hb : b ∈ m.aliases) {x : Member}
    (hx : x ∈ b.members) {lines : List Text} (h : lines <:+: x.forms.2) :
    lines <:+: m.globalLines := by
  have hmember : x.forms.2 <:+: b.members.flatMap (·.forms.2) :=
    infix_flatMap (f := fun member : Member => member.forms.2) hx
  have hblock : b.headingLines ++ b.members.flatMap (·.forms.2) <:+: m.globalLines :=
    infix_flatMap (f := fun b : AliasBlock => b.headingLines ++ b.members.flatMap (·.forms.2)) hb
  exact h.trans (hmember.trans ((List.suffix_append _ _).isInfix.trans hblock))

/-- What stands in the lines of a member of a class, stands in the namespace, one indentation
    further in. -/
theorem Model.infix_namespaceLines {m : Model} {c : ClassDecl} (hc : c ∈ m.classes) {x : Member}
    (hx : x ∈ c.members) {lines : List Text} (h : lines <:+: x.forms.1) :
    lines.map (indentation ++ ·) <:+: m.namespaceLines := by
  have hmember : x.forms.1 <:+: c.members.flatMap (·.forms.1) :=
    infix_flatMap (f := fun member : Member => member.forms.1) hx
  have hbody : lines.map (indentation ++ ·) <:+: c.lines := by
    refine ((h.trans hmember).map (indentation ++ ·)).trans ?_
    exact ⟨filledLines c.openingText, [("\x7d" : Text)], rfl⟩
  exact hbody.trans (infix_flatMap (f := ClassDecl.lines) hc)

/-! ### Members without a fault -/

namespace MethodDecl

theorem infix_declaredLines {m : MethodDecl} (h : m.errors = []) (declaration : Text) :
    filledLines declaration <:+: m.declaredLines declaration := by
  rw [declaredLines, if_pos (List.isEmpty_iff.2 h)]
  exact (List.suffix_append _ _).isInfix

/-- The signature of a method without objections begins no comment. -/
theorem uncommented_signature {m : MethodDecl} (hname : (Member.method m).Declarable)
    (h : m.errors = []) (rest : Text) : ¬ commentMark <+: m.signature ++ rest := by
  unfold signature
  split
  · exact not_comment_of_ne (by decide : CodePoint.scalar 'c' ≠ '/') _
  · next hconstructor =>
    obtain ⟨c, more, hcut, hne⟩ := exists_of_isSymbol ((hname h).resolve_left hconstructor)
    rw [hcut]
    exact not_comment_of_ne hne _

end MethodDecl

theorem PropertyDecl.uncommented_signature {p : PropertyDecl}
    (hname : (Member.property p).Declarable) (h : p.isValid = true) (rest : Text) :
    ¬ commentMark <+: p.signature ++ rest := by
  obtain ⟨c, more, hcut, hne⟩ := exists_of_isSymbol (hname h)
  rw [signature, hcut]
  exact not_comment_of_ne hne _

namespace Model

variable {model : Model} {module global : Sheet}

/-- A declaration among the lines of a member of the root class is shown at the margin of the
    global form. -/
theorem shows_of_global (hglobal : filledLines global.text =
      filledLines model.referenceText ++ model.globalLines ++ constantLines model.constants)
    {b : AliasBlock} (hb : b ∈ model.aliases) {x : Member} (hx : x ∈ b.members)
    {declaration : Text} (hlines : filledLines declaration <:+: x.forms.2)
    (h : ¬ commentMark <+: declaration) : global.text.Shows 0 declaration := by
  refine ⟨?_, h⟩
  have hmargin : (filledLines declaration).map (margin 0 ++ ·) = filledLines declaration :=
    List.map_id _
  rw [hmargin, hglobal]
  exact (infix_globalLines hb hx hlines).trans ⟨_, _, rfl⟩

/-- A declaration among the lines of a member of a class is shown two indentations further in by
    the module form. -/
theorem shows_of_module (hmodule : filledLines module.text =
      filledLines ("declare class " ++ model.rootName ++ " \x7b") ++
        model.rootLines.map (indentation ++ ·) ++ [("\x7d" : Text)] ++
        filledLines ("declare namespace " ++ model.rootName ++ " \x7b") ++
        model.namespaceLines.map (indentation ++ ·) ++ [("\x7d" : Text)])
    {c : ClassDecl} (hc : c ∈ model.classes) {x : Member} (hx : x ∈ c.members)
    {declaration : Text} (hlines : filledLines declaration <:+: x.forms.1)
    (h : ¬ commentMark <+: declaration) : module.text.Shows 2 declaration := by
  refine ⟨?_, h⟩
  have hmargin : (filledLines declaration).map (margin 2 ++ ·) =
      ((filledLines declaration).map (indentation ++ ·)).map (indentation ++ ·) := by
    rw [List.map_map]
    rfl
  rw [hmargin, hmodule]
  exact ((infix_namespaceLines hc hx hlines).map (indentation ++ ·)).trans ⟨_, _, rfl⟩

end Model

namespace Build

/-- **Which members are declared.**  Both forms of a built model can be written.  The global form
    shows the declaration of every member of the root class in which the build found no fault.
    The module form shows that of every such member of a class in the namespace, final properties
    aside, of which nothing is written inside a class. -/
theorem members_declared {settings : Settings} {schema : Schema} {model : Model}
    (h : (run settings schema).result = .ok model) :
    ∃ module global,
      model.renderModule .blank = .ok module ∧ model.renderGlobal .blank = .ok global ∧
      (∀ b ∈ model.aliases,
        (∀ m, .method m ∈ b.members → m.errors = [] →
          global.text.Shows 0 ("declare function " ++ m.signature ++ ";")) ∧
        ∀ p, .property p ∈ b.members → p.isValid = true →
          global.text.Shows 0
            (if p.isFinal then "declare const " ++ p.signature ++ ";"
            else "declare var " ++ p.signature ++ ";")) ∧
      ∀ c ∈ model.classes,
        (∀ m, .method m ∈ c.members → m.errors = [] →
          module.text.Shows 2
            ((if m.isStatic then Text.ofString "static " else []) ++ m.signature ++ ";")) ∧
        (∀ p, .property p ∈ c.members → p.isValid = true → p.isFinal = false →
          module.text.Shows 2 (p.signature ++ ";")) ∧
        ∀ p, .property p ∈ c.members → p.isValid = true → p.isFinal = true →
          ∀ level, (Member.property p).bodyCommands (level + 1) = [] := by
  obtain ⟨module, hmodule, hmoduleLines⟩ := model.renderModule_blank
  obtain ⟨global, hglobal, hglobalLines⟩ := model.renderGlobal_blank
  have hdeclarable := declarable_of_run h
  refine ⟨module, global, hmodule, hglobal, ?_, ?_⟩
  · intro b hb
    constructor
    · intro m hm herrors
      refine Model.shows_of_global hglobalLines hb hm (m.infix_declaredLines herrors _) ?_
      exact not_comment_of_ne (by decide : CodePoint.scalar 'd' ≠ '/') _
    · intro p hp hvalid
      apply Model.shows_of_global hglobalLines hb hp
      · simp only [Member.forms, PropertyDecl.forms, hvalid]
        split
        · exact (List.suffix_append _ _).isInfix
        · exact (List.suffix_append _ _).isInfix
      · split
        · exact not_comment_of_ne (by decide : CodePoint.scalar 'd' ≠ '/') _
        · exact not_comment_of_ne (by decide : CodePoint.scalar 'd' ≠ '/') _
  · intro c hc
    have hmember : ∀ x ∈ c.members, x.Declarable := by
      intro x hx
      apply hdeclarable
      exact List.mem_append_right _ (List.mem_flatMap.2 ⟨c, hc, hx⟩)
    refine ⟨?_, ?_, ?_⟩
    · intro m hm herrors
      -- without `static` the line begins with the name, which is no comment because it is a symbol
      refine Model.shows_of_module hmoduleLines hc hm (m.infix_declaredLines herrors _) ?_
      split
      · exact not_comment_of_ne (by decide : CodePoint.scalar 's' ≠ '/') _
      · exact m.uncommented_signature (hmember _ hm) herrors _
    · intro p hp hvalid hfinal
      refine Model.shows_of_module hmoduleLines hc hp ?_
        (p.uncommented_signature (hmember _ hp) hvalid _)
      simp only [Member.forms, PropertyDecl.forms, hvalid, hfinal]
      exact (List.suffix_append _ _).isInfix
    · intro p _ hvalid hfinal level
      simp [Member.bodyCommands, PropertyDecl.commands, hvalid, hfinal]

def vectorClass : ClassDoc :=
  ⟨⟨⟨[], none, false, false, none⟩, "src/vector.js", [], true, none, "p5.Vector"⟩, none⟩

def vectorItem (name : Text) (kind : ItemKind) (isFinal : Bool) (value : Option Text) : ItemDoc :=
  ⟨⟨⟨[], none, true, false, none⟩, "src/vector.js", [], false, none, name⟩, "p5.Vector", kind,
    some "Number", value, isFinal⟩

def tauItem : ItemDoc :=
  ⟨⟨⟨[], none, false, false, none⟩, "src/math.js", [], false, none, "TAU"⟩, "p5", .property,
    some "Number", some "6.28", true⟩

/-- A final property of the root class, and a class with a static method and two properties, of
    which the second one is final. -/
def tauSchema : Schema :=
  ⟨.ofList [("p5", ⟨⟨⟨[], none, false, false, none⟩, [], [], false, none, "p5"⟩, none⟩),
      ("p5.Vector", vectorClass)],
    [tauItem, vectorItem "zero" .method false none, vectorItem "x" .property false none,
      vectorItem "DIMENSIONS" .property true (some "3")]⟩

def tauDecl : PropertyDecl := ⟨"TAU", "number", some "6.28", true, [], "src/math.js", true⟩

def zeroDecl : MethodDecl := ⟨"zero", [], "void", false, true, [], "src/vector.js", none, []⟩

def abscissaDecl : PropertyDecl := ⟨"x", "number", none, false, [], "src/vector.js", true⟩

def dimensionsDecl : PropertyDecl :=
  ⟨"DIMENSIONS", "number", some "3", true, [], "src/vector.js", true⟩

theorem build_tauSchema :
    ((run .standard tauSchema).result.map fun m =>
      (m.aliases.map AliasBlock.members, m.classes.map fun c => c.members.drop 1)).toOption =
      some ([[.property tauDecl]],
        [[.method zeroDecl, .property abscissaDecl, .property dimensionsDecl]]) := by
  decide +kernel

theorem members_declared_tau :
    ∃ model module global, (run .standard tauSchema).result = .ok model ∧
      model.renderModule .blank = .ok module ∧ model.renderGlobal .blank = .ok global ∧
      global.text.Shows 0 "declare const TAU: 6.28;" ∧
      module.text.Shows 2 "static zero(): void;" ∧ module.text.Shows 2 "x: number;" := by
  obtain ⟨model, hmodel, hmembers⟩ := exists_ok_of_map build_tauSchema
  obtain ⟨haliases, hclasses⟩ := Prod.mk.inj hmembers
  obtain ⟨module, global, hmodule, hglobal, hroot, hnamespace⟩ := members_declared hmodel
  obtain ⟨b, hb, htau⟩ := List.mem_map.1 (haliases ▸ List.mem_cons_self)
  obtain ⟨c, hc, hvector⟩ := List.mem_map.1 (hclasses ▸ List.mem_cons_self)
  have hsub : ∀ x ∈ [Member.method zeroDecl, .property abscissaDecl, .property dimensionsDecl],
      x ∈ c.members := by
    intro x hx
    rw [← hvector] at hx
    exact List.mem_of_mem_drop hx
  obtain ⟨-, hproperty⟩ := hroot b hb
  obtain ⟨hmethods, hproperties, -⟩ := hnamespace c hc
  refine ⟨model, module, global, hmodel, hmodule, hglobal, ?_, ?_, ?_⟩
  · exact hproperty tauDecl (by simp [htau]) rfl
  · exact hmethods zeroDecl (hsub _ (by simp)) rfl
  · exact hproperties abscissaDecl (hsub _ (by simp)) rfl rfl

theorem render_tauSchema :
    ((run .standard tauSchema).result.map fun m =>
      (m.members.contains (.property dimensionsDecl),
        (m.renderModule .blank).toOption.map fun s =>
          Text.mentions dimensionsDecl.signature s.text,
        (m.renderGlobal .blank).toOption.map fun s =>
          Text.mentions dimensionsDecl.signature s.text)).toOption =
      some (true, some false, some false) := by
  decide +kernel

/-- The final property of the class is valid, and its declaration is in neither of the files. -/
theorem final_member_undeclared :
    ∃ model module global, (run .standard tauSchema).result = .ok model ∧
      model.renderModule .blank = .ok module ∧ model.renderGlobal .blank = .ok global ∧
      .property dimensionsDecl ∈ model.members ∧ dimensionsDecl.isValid = true ∧
      Text.mentions dimensionsDecl.signature module.text = false ∧
      Text.mentions dimensionsDecl.signature global.text = false := by
  obtain ⟨model, hmodel, hrendered⟩ := exists_ok_of_map render_tauSchema
  obtain ⟨module, hmodule, -⟩ := model.renderModule_blank
  obtain ⟨global, hglobal, -⟩ := model.renderGlobal_blank
  rw [hmodule, hglobal] at hrendered
  obtain ⟨hmember, htexts⟩ := Prod.mk.inj hrendered
  obtain ⟨hmoduleText, hglobalText⟩ := Prod.mk.inj htexts
  exact ⟨model, module, global, hmodel, hmodule, hglobal, List.contains_iff_mem.1 hmember, rfl,
    Option.some.inj hmoduleText, Option.some.inj hglobalText⟩

end Build

end Ambient
