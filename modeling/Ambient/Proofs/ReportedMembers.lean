/-
  Ambient/Proofs/ReportedMembers.lean
  ===================================
  **What is reported is what the module form comments out.**

  A report goes through the list of all members.  The module form goes through blocks and classes,
  at different levels, and writes each kind of member in its own way.  To compare the two, the
  texts that the module form emits are cut into segments (`Model.segments`): the frames of blocks
  and classes, and for each member what becomes of it.  A member is declared, explained in a block
  of comments or mentioned in one comment, or it is a final property, of which nothing is written.

  The members that are explained are the ones with diagnostics, in the order of the report, and
  the members that are declared have none (`Model.report_agrees`).
-/
import Ambient.Proofs.RootMembers
import Ambient.Report.Basic
import Mathlib.Data.List.Basic

namespace Ambient

/-! ### Emitted texts -/

def Command.emitted? : Command → Option Text
  | .emit text => some text
  | .indent | .dedent | .sectionBreak | .description _ | .sourceFile _ => none

def emitted (commands : List Command) : List Text := commands.filterMap Command.emitted?

theorem emitted_append (commands more : List Command) :
    emitted (commands ++ more) = emitted commands ++ emitted more :=
  List.filterMap_append

theorem emitted_emits {α : Type} (f : α → Text) (items : List α) :
    emitted (items.map fun item => .emit (f item)) = items.map f := by
  induction items with
  | nil => rfl
  | cons item rest ih => exact congrArg (f item :: ·) ih

theorem emitted_flatMap {α : Type} {f : α → List Command} {g : α → List Text} {items : List α}
    (h : ∀ item ∈ items, emitted (f item) = g item) :
    emitted (items.flatMap f) = items.flatMap g := by
  induction items with
  | nil => rfl
  | cons item rest ih =>
    rw [List.forall_mem_cons] at h
    rw [List.flatMap_cons, List.flatMap_cons, emitted_append, h.1, ih h.2]

/-! ### Segments -/

/-- A part of what the module form emits. -/
inductive Segment where
  | frame (text : Text)
  | declaresMethod (m : MethodDecl)
  | declaresProperty (p : PropertyDecl)
  | explainsMethod (m : MethodDecl)
  | explainsProperty (p : PropertyDecl)
  | mentions (u : UnsupportedDecl)

namespace Segment

def texts : Segment → List Text
  | frame text => [text]
  | declaresMethod m => [m.declaration 1]
  | declaresProperty p => [p.memberDeclaration]
  | explainsMethod m =>
    [m.invalidText, ("//" : Text)] ++ m.errors.map (fun error => ("//   " ++ error : Text)) ++
      [("//" : Text), ("// " ++ m.declaration 1 : Text), []]
  | explainsProperty p => [p.invalidText]
  | mentions u => [u.commentText]

def explained? : Segment → Option Member
  | explainsMethod m => some (.method m)
  | explainsProperty p => some (.property p)
  | frame _ | declaresMethod _ | declaresProperty _ | mentions _ => none

def declared? : Segment → Option Member
  | declaresMethod m => some (.method m)
  | declaresProperty p => some (.property p)
  | frame _ | explainsMethod _ | explainsProperty _ | mentions _ => none

/-- An explanation is nothing but comments, with an empty text at its end. -/
theorem commented_of_explained {segment : Segment} {m : Member}
    (h : segment.explained? = some m) :
    ∀ text ∈ segment.texts, text = [] ∨ ("//" : Text) <+: text := by
  have hmark : ∀ rest : Text, ("//" : Text) <+: ("//" ++ rest : Text) :=
    fun rest => List.prefix_append _ rest
  intro text htext
  cases segment with
  | frame | declaresMethod | declaresProperty | mentions => exact nomatch h
  | explainsProperty p =>
    obtain rfl := List.mem_singleton.1 htext
    exact .inr ⟨_, rfl⟩
  | explainsMethod m =>
    rcases List.mem_append.1 htext with htext | htext
    · rcases List.mem_append.1 htext with htext | htext
      · rcases List.mem_cons.1 htext with rfl | htext
        · exact .inr ⟨_, rfl⟩
        · obtain rfl := List.mem_singleton.1 htext
          exact .inr (List.prefix_refl _)
      · obtain ⟨error, -, rfl⟩ := List.mem_map.1 htext
        exact .inr ⟨_, rfl⟩
    · rcases List.mem_cons.1 htext with rfl | htext
      · exact .inr (List.prefix_refl _)
      rcases List.mem_cons.1 htext with rfl | htext
      · exact .inr ⟨_, rfl⟩
      · exact .inl (List.mem_singleton.1 htext)

end Segment

namespace Member

def segments : Member → List Segment
  | method m => if m.errors.isEmpty then [.declaresMethod m] else [.explainsMethod m]
  | property p =>
    if !p.isValid then [.explainsProperty p]
    else if p.isFinal then []
    else [.declaresProperty p]
  | unsupported u => [.mentions u]

/-- Whether a member has a declaration inside a class: it has no diagnostics, and it is no final
    property. -/
def isDeclaredInside (m : Member) : Bool :=
  m.diagnostics.isEmpty &&
    match m with
    | method _ => true
    | property p => !p.isFinal
    | unsupported _ => false

theorem emitted_commands (level : Nat) (m : Member) :
    emitted (m.commands (level + 1)) = m.segments.flatMap Segment.texts := by
  change emitted (m.bodyCommands (level + 1)) = _
  cases m with
  | unsupported u => rfl
  | property p =>
    simp only [bodyCommands, PropertyDecl.commands, segments]
    cases p.isValid <;> cases p.isFinal <;> rfl
  | method m =>
    simp only [bodyCommands, MethodDecl.commands, segments]
    split
    · rfl
    · have herrors := emitted_emits (fun error : Text => ("//   " ++ error : Text)) m.errors
      rw [emitted_append, emitted_append, herrors, List.flatMap_singleton]
      rfl

/-- A member is explained exactly if it has diagnostics. -/
theorem explained_segments (m : Member) :
    m.segments.filterMap Segment.explained? = if !m.diagnostics.isEmpty then [m] else [] := by
  cases m with
  | unsupported u => rfl
  | property p =>
    by_cases hvalid : p.isValid = true
    · by_cases hfinal : p.isFinal = true <;>
        simp [segments, diagnostics, Segment.explained?, hvalid, hfinal]
    · simp [segments, diagnostics, Segment.explained?, hvalid]
  | method m =>
    by_cases herrors : m.errors = [] <;>
      simp [segments, diagnostics, Segment.explained?, herrors]

theorem declared_segments (m : Member) :
    m.segments.filterMap Segment.declared? = if m.isDeclaredInside then [m] else [] := by
  cases m with
  | unsupported u => rfl
  | property p =>
    by_cases hvalid : p.isValid = true
    · by_cases hfinal : p.isFinal = true <;>
        simp [segments, isDeclaredInside, diagnostics, Segment.declared?, hvalid, hfinal]
    · simp [segments, isDeclaredInside, diagnostics, Segment.declared?, hvalid]
  | method m =>
    by_cases herrors : m.errors = [] <;>
      simp [segments, isDeclaredInside, diagnostics, Segment.declared?, herrors]

end Member

/-! ### Blocks, classes and files -/

def AliasBlock.segments (b : AliasBlock) : List Segment :=
  .frame ("// Properties from " ++ b.className) :: b.members.flatMap Member.segments

def ClassDecl.segments (c : ClassDecl) : List Segment :=
  .frame c.openingText :: c.members.flatMap Member.segments ++ [.frame "\x7d"]

def Model.segments (m : Model) : List Segment :=
  [.frame ("declare class " ++ m.rootName ++ " \x7b")] ++ m.aliases.flatMap AliasBlock.segments ++
    [.frame "\x7d\n", .frame ("declare namespace " ++ m.rootName ++ " \x7b")] ++
    m.classes.flatMap ClassDecl.segments ++ [.frame "\x7d\n"]

theorem Member.emitted_flatMap (level : Nat) (members : List Member) :
    emitted (members.flatMap (Member.commands (level + 1))) =
      (members.flatMap Member.segments).flatMap Segment.texts := by
  rw [List.flatMap_assoc]
  exact Ambient.emitted_flatMap fun m _ => m.emitted_commands level

theorem AliasBlock.emitted_commands (level : Nat) (b : AliasBlock) :
    emitted (b.commands (level + 1)) = b.segments.flatMap Segment.texts := by
  rw [commands, emitted_append, Member.emitted_flatMap, segments, List.flatMap_cons]
  rfl

theorem ClassDecl.emitted_commands (level : Nat) (c : ClassDecl) :
    emitted (c.commands (level + 1)) = c.segments.flatMap Segment.texts := by
  rw [commands, emitted_append, emitted_append, Member.emitted_flatMap, segments,
    List.cons_append, List.flatMap_cons, List.flatMap_append]
  rfl

namespace Model

/-- The module form emits its segments, at whatever level it begins. -/
theorem emitted_moduleCommands (level : Nat) (m : Model) :
    emitted (m.moduleCommands level) = m.segments.flatMap Segment.texts := by
  have haliases : emitted (m.aliases.flatMap (AliasBlock.commands (level + 1))) =
      (m.aliases.flatMap AliasBlock.segments).flatMap Segment.texts := by
    rw [List.flatMap_assoc]
    exact emitted_flatMap fun b _ => b.emitted_commands level
  have hclasses : emitted (m.classes.flatMap (ClassDecl.commands (level + 1))) =
      (m.classes.flatMap ClassDecl.segments).flatMap Segment.texts := by
    rw [List.flatMap_assoc]
    exact emitted_flatMap fun c _ => c.emitted_commands level
  simp only [moduleCommands, segments, emitted_append, haliases, hclasses, List.flatMap_append]
  rfl

/-- The frames aside, the segments of a model are those of its members, in the order of the
    report. -/
theorem filterMap_segments {f : Segment → Option Member} (hframe : ∀ text, f (.frame text) = none)
    (m : Model) :
    m.segments.filterMap f = m.members.flatMap fun member => member.segments.filterMap f := by
  have hblock : ∀ b : AliasBlock, b.segments.filterMap f =
      b.members.flatMap fun member => member.segments.filterMap f := by
    intro b
    rw [AliasBlock.segments, List.filterMap_cons_none (hframe _), List.filterMap_flatMap]
  have hclass : ∀ c : ClassDecl, c.segments.filterMap f =
      c.members.flatMap fun member => member.segments.filterMap f := by
    intro c
    rw [ClassDecl.segments, List.filterMap_append, List.filterMap_cons_none (hframe _),
      List.filterMap_cons_none (hframe _), List.filterMap_nil, List.append_nil,
      List.filterMap_flatMap]
  simp only [segments, members, List.filterMap_append, List.filterMap_cons, hframe,
    List.filterMap_nil, List.nil_append, List.append_nil, List.filterMap_flatMap, hblock, hclass,
    List.flatMap_append, List.flatMap_assoc]

theorem filterMap_segments_eq_filter {f : Segment → Option Member} {kept : Member → Bool}
    (hframe : ∀ text, f (.frame text) = none)
    (hmember : ∀ member : Member,
      member.segments.filterMap f = if kept member then [member] else []) (m : Model) :
    m.segments.filterMap f = m.members.filter kept := by
  rw [m.filterMap_segments hframe]
  induction m.members with
  | nil => rfl
  | cons member rest ih =>
    rw [List.flatMap_cons, ih, hmember, List.filter_cons]
    split <;> rfl

/-- **The report matches the module form.**  The diagnostics of a report are those of each member
    in turn, one for each objection to a method and one for each property whose name cannot be
    declared.  The module form can be written on every sheet, and what it emits are its segments:
    the members that are explained in a block of comments are those with diagnostics, in their
    order, and the members that are declared are the ones without, final properties and
    unsupported items aside.  So there are no diagnostics exactly if no member is explained. -/
theorem report_agrees (m : Model) (outputs : List Path) (s : Sheet) :
    (Report.ofModel m outputs).diagnostics = m.members.flatMap (fun
      | .method d => d.errors.map fun error => ⟨d.file, d.line, d.name, error⟩
      | .property p =>
        if p.isValid then [] else [⟨p.file, none, p.name, Objection.badNameText p.name⟩]
      | .unsupported _ => []) ∧
    (∃ s', m.renderModule s = .ok s') ∧
    emitted (m.moduleCommands s.level) = m.segments.flatMap Segment.texts ∧
    m.segments.filterMap Segment.explained? =
      m.members.filter (fun member => !member.diagnostics.isEmpty) ∧
    m.segments.filterMap Segment.declared? = m.members.filter Member.isDeclaredInside ∧
    (∀ segment ∈ m.segments, ∀ member, segment.explained? = some member →
      ∀ text ∈ segment.texts, text = [] ∨ ("//" : Text) <+: text) ∧
    ((Report.ofModel m outputs).diagnostics = [] ↔
      m.segments.filterMap Segment.explained? = []) := by
  have hexplained := filterMap_segments_eq_filter (fun _ => rfl) Member.explained_segments m
  have hdeclared := filterMap_segments_eq_filter (fun _ => rfl) Member.declared_segments m
  obtain ⟨s', hrun, -⟩ := m.writes_moduleCommands s.level s
  refine ⟨?_, ⟨s', hrun⟩, m.emitted_moduleCommands s.level, hexplained, hdeclared, ?_, ?_⟩
  · apply List.flatMap_congr
    intro member _
    cases member <;> rfl
  · intro segment _ member hsome
    exact Segment.commented_of_explained hsome
  · rw [hexplained, List.filter_eq_nil_iff]
    simp only [Report.ofModel, List.flatMap_eq_nil_iff, Bool.not_eq_true', Bool.not_eq_false,
      List.isEmpty_iff]

def tossDecl : MethodDecl :=
  ⟨"toss", ["coin: any"], "void", false, false, [], "src/toss.js", some 7,
    ["param \"coin\" has invalid type: Coin"]⟩

def digitDecl : PropertyDecl := ⟨"2x", "any", none, false, [], "src/toss.js", false⟩

def closeDecl : MethodDecl := ⟨"close", [], "void", false, false, [], "src/shape.js", none, []⟩

def tossModel : Model :=
  ⟨"p5", [⟨"p5", [.method tossDecl, .property digitDecl]⟩],
    [⟨"p5.Shape", "Shape", none, "src/shape.js", [.method closeDecl]⟩], .empty, .empty⟩

theorem report_agrees_toss :
    (Report.ofModel tossModel []).diagnostics =
      [⟨"src/toss.js", some 7, "toss", "param \"coin\" has invalid type: Coin"⟩,
        ⟨"src/toss.js", none, "2x", "\"2x\" is not a valid JS symbol name"⟩] ∧
    tossModel.segments.filterMap Segment.explained? = [.method tossDecl, .property digitDecl] ∧
    tossModel.segments.filterMap Segment.declared? = [.method closeDecl] := by
  obtain ⟨hdiagnostics, -, -, hexplained, hdeclared, -, -⟩ := report_agrees tossModel [] .blank
  refine ⟨?_, ?_, ?_⟩
  · rw [hdiagnostics]
    decide +kernel
  · rw [hexplained]
    decide +kernel
  · rw [hdeclared]
    decide +kernel

end Model

end Ambient
