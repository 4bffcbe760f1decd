/-
  Ambient/Proofs/CommentedMembers.lean
  ====================================
  **When a comment on a member stays a comment.**

  A member that cannot be declared is mentioned in a block of line comments, and what the block
  says of it is pasted from the documentation: its name, its file, the objections to it and what
  would have declared it.  A line comment ends with its line.  So a line feed in a pasted text
  begins a line of its own, with no mark in front unless the text has one there itself.

  A text can end a line comment if each of its line feeds is followed by the mark of a comment, by
  an empty line, or by nothing (`Text.MayEndComment`); with more of the comment behind it, the last
  of these must not be (`Text.MayStandInComment`).  A block is a comment throughout exactly if each
  text that is pasted into it can stand where it stands (`Member.commented_iff`).
-/
import Ambient.Declaration.Build
import Ambient.Proofs.RootMembers
import Mathlib.Data.List.Basic

namespace Ambient

namespace Text

/-! ### Texts inside a line comment -/

def commentMark : Text := "//"

/-- A text that leaves a comment nothing to lose at the start of a line: it has the mark there, or
    an empty line, or it is over. -/
def BeginsComment (t : Text) : Prop := t = [] ∨ "\n" <+: t ∨ commentMark <+: t

/-- A text that can stand at the end of a line comment. -/
def MayEndComment (t : Text) : Prop :=
  ∀ before after, t = before ++ .scalar '\n' :: after → BeginsComment after

/-- A text that can stand inside a line comment, with more of the comment behind it. -/
structure MayStandInComment (t : Text) : Prop where
  mayEnd : MayEndComment t
  getLast? : t.getLast? ≠ some (.scalar '\n')

/-- A fixed text behind a pasted one, which goes on with the same line. -/
structure IsJoint (joint : Text) : Prop where
  ne_nil : joint ≠ []
  head? : joint.head? ≠ some (.scalar '/')
  notMem : CodePoint.scalar '\n' ∉ joint

instance (joint : Text) : Decidable (IsJoint joint) :=
  decidable_of_iff (joint ≠ [] ∧ joint.head? ≠ some (.scalar '/') ∧ CodePoint.scalar '\n' ∉ joint)
    ⟨fun ⟨hne, hhead, hnot⟩ => ⟨hne, hhead, hnot⟩, fun h => ⟨h.ne_nil, h.head?, h.notMem⟩⟩

theorem mayEndComment_of_notMem {t : Text} (h : CodePoint.scalar '\n' ∉ t) : MayEndComment t := by
  rintro before after rfl
  exact absurd (List.mem_append_right before List.mem_cons_self) h

theorem mayStandInComment_nil : MayStandInComment [] :=
  ⟨mayEndComment_of_notMem List.not_mem_nil, nofun⟩

theorem mayEndComment_cons {c : CodePoint} {t : Text} :
    MayEndComment (c :: t) ↔ (c = .scalar '\n' → BeginsComment t) ∧ MayEndComment t := by
  constructor
  · intro h
    constructor
    · rintro rfl
      exact h [] t rfl
    · rintro before after rfl
      exact h (c :: before) after rfl
  · rintro ⟨hfirst, hrest⟩ before after heq
    cases before with
    | nil =>
      obtain ⟨rfl, rfl⟩ := List.cons.inj heq
      exact hfirst rfl
    | cons d before =>
      exact hrest before after (List.cons.inj heq).2

/-- Where something else than a line feed or a slash comes behind a text, the text alone decides
    how it begins. -/
theorem beginsComment_append_cons {c : CodePoint} (hfeed : c ≠ .scalar '\n')
    (hslash : c ≠ .scalar '/') (t u : Text) :
    BeginsComment (t ++ c :: u) ↔ t ≠ [] ∧ BeginsComment t := by
  match t with
  | [] =>
    simp [BeginsComment, commentMark, ofString, Ne.symm hfeed, Ne.symm hslash]
  | [d] =>
    simp [BeginsComment, commentMark, ofString, Ne.symm hslash]
  | d :: e :: rest =>
    simp [BeginsComment, commentMark, ofString]

theorem mayEndComment_append_cons {c : CodePoint} (hfeed : c ≠ .scalar '\n')
    (hslash : c ≠ .scalar '/') (t u : Text) :
    MayEndComment (t ++ c :: u) ↔ MayStandInComment t ∧ MayEndComment (c :: u) := by
  induction t with
  | nil => simp [mayStandInComment_nil]
  | cons d t ih =>
    rw [List.cons_append, mayEndComment_cons, ih, beginsComment_append_cons hfeed hslash]
    constructor
    · rintro ⟨hbegins, ⟨hmay, hlast⟩, hrest⟩
      refine ⟨⟨mayEndComment_cons.2 ⟨fun hd => (hbegins hd).2, hmay⟩, ?_⟩, hrest⟩
      cases t with
      | nil =>
        intro hd
        exact (hbegins (Option.some.inj hd)).1 rfl
      | cons e t => rwa [List.getLast?_cons_cons]
    · rintro ⟨⟨hmay, hlast⟩, hrest⟩
      obtain ⟨hbegins, hmay⟩ := mayEndComment_cons.1 hmay
      refine ⟨?_, ⟨hmay, ?_⟩, hrest⟩
      · intro hd
        refine ⟨?_, hbegins hd⟩
        rintro rfl
        exact hlast (congrArg some hd)
      · cases t with
        | nil => exact nofun
        | cons e t => rwa [List.getLast?_cons_cons] at hlast

theorem mayEndComment_append_of_notMem {p : Text} (h : CodePoint.scalar '\n' ∉ p) (t : Text) :
    MayEndComment (p ++ t) ↔ MayEndComment t := by
  induction p with
  | nil => rfl
  | cons c p ih =>
    rw [List.mem_cons, not_or] at h
    rw [List.cons_append, mayEndComment_cons, ih h.2]
    constructor
    · exact And.right
    · intro hmay
      exact ⟨fun hc => absurd hc.symm h.1, hmay⟩

theorem mayStandInComment_append_of_notMem {p : Text} (h : CodePoint.scalar '\n' ∉ p) (t : Text) :
    MayStandInComment (p ++ t) ↔ MayStandInComment t := by
  have hlast : (p ++ t).getLast? = some (.scalar '\n') ↔ t.getLast? = some (.scalar '\n') := by
    cases t with
    | nil =>
      rw [List.append_nil]
      constructor
      · intro hp
        exact absurd (List.mem_of_getLast? hp) h
      · exact nofun
    | cons c t => rw [List.getLast?_append_of_ne_nil p (List.cons_ne_nil c t)]
  constructor
  · rintro ⟨hmay, hne⟩
    exact ⟨(mayEndComment_append_of_notMem h t).1 hmay, mt hlast.2 hne⟩
  · rintro ⟨hmay, hne⟩
    exact ⟨(mayEndComment_append_of_notMem h t).2 hmay, mt hlast.1 hne⟩

/-- A joint parts a comment: each side counts for itself. -/
theorem mayEndComment_around {joint : Text} (h : IsJoint joint) (t u : Text) :
    MayEndComment (t ++ joint ++ u) ↔ MayStandInComment t ∧ MayEndComment u := by
  obtain ⟨c, rest, rfl⟩ := List.exists_cons_of_ne_nil h.ne_nil
  have hslash : c ≠ .scalar '/' := fun hc => h.head? (congrArg some hc)
  have hfeed : c ≠ .scalar '\n' := fun hc => h.notMem (hc ▸ List.mem_cons_self)
  rw [List.append_assoc, List.cons_append, mayEndComment_append_cons hfeed hslash,
    ← List.cons_append, mayEndComment_append_of_notMem h.notMem]

theorem mayStandInComment_around {joint : Text} (h : IsJoint joint) (t u : Text) :
    MayStandInComment (t ++ joint ++ u) ↔ MayStandInComment t ∧ MayStandInComment u := by
  have hlast : (t ++ joint ++ u).getLast? = (joint ++ u).getLast? := by
    rw [List.append_assoc, List.getLast?_append_of_ne_nil]
    exact List.append_ne_nil_of_left_ne_nil h.ne_nil u
  have hjoint := mayStandInComment_append_of_notMem h.notMem u
  constructor
  · rintro ⟨hmay, hne⟩
    obtain ⟨hstand, hend⟩ := (mayEndComment_around h t u).1 hmay
    refine ⟨hstand, hjoint.1 ⟨(mayEndComment_append_of_notMem h.notMem u).2 hend, ?_⟩⟩
    rwa [← hlast]
  · rintro ⟨hstand, hmore⟩
    refine ⟨(mayEndComment_around h t u).2 ⟨hstand, hmore.mayEnd⟩, ?_⟩
    rw [hlast]
    exact (hjoint.2 hmore).getLast?

theorem mayEndComment_append_joint {joint : Text} (h : IsJoint joint) (t : Text) :
    MayEndComment (t ++ joint) ↔ MayStandInComment t := by
  have hall := mayEndComment_around h t []
  rw [List.append_nil] at hall
  rw [hall, and_iff_left (mayEndComment_of_notMem List.not_mem_nil)]

theorem mayStandInComment_append_joint {joint : Text} (h : IsJoint joint) (t : Text) :
    MayStandInComment (t ++ joint) ↔ MayStandInComment t := by
  have hall := mayStandInComment_around h t []
  rw [List.append_nil] at hall
  rw [hall, and_iff_left mayStandInComment_nil]

theorem mayStandInComment_join {joint : Text} (h : IsJoint joint) (parts : List Text) :
    MayStandInComment (join joint parts) ↔ ∀ part ∈ parts, MayStandInComment part := by
  match parts with
  | [] => simpa [join] using mayStandInComment_nil
  | [part] => simp [join]
  | first :: second :: rest =>
    rw [join, mayStandInComment_around h, mayStandInComment_join h (second :: rest),
      List.forall_mem_cons (a := first)]

/-! ### The lines of a comment -/

def IsCommentLine (line : Text) : Prop := line = [] ∨ commentMark <+: line

theorem split_cons_of_ne {c : CodePoint} (h : c ≠ .scalar '\n') {t first : Text} {more : List Text}
    (hs : split '\n' t = first :: more) : split '\n' (c :: t) = (c :: first) :: more := by
  rw [split, if_neg h, hs]
  rfl

/-- The first line of a text begins as the text does. -/
theorem isCommentLine_head_iff {t first : Text} {more : List Text}
    (h : split '\n' t = first :: more) : IsCommentLine first ↔ BeginsComment t := by
  match t with
  | [] =>
    cases h
    simp [IsCommentLine, BeginsComment]
  | c :: rest =>
    by_cases hc : c = .scalar '\n'
    · subst hc
      cases h
      simp [IsCommentLine, BeginsComment, ofString]
    · obtain ⟨second, others, hs⟩ := List.exists_cons_of_ne_nil (split_ne_nil '\n' rest)
      rw [split_cons_of_ne hc hs] at h
      cases h
      -- the mark has two code points, so what stands behind `c` matters only by its first one
      have hsecond : [CodePoint.scalar '/'] <+: second ↔ [CodePoint.scalar '/'] <+: rest := by
        match rest with
        | [] =>
          cases hs
          rfl
        | d :: rest =>
          by_cases hd : d = .scalar '\n'
          · subst hd
            cases hs
            simp
          · obtain ⟨third, lines, hs'⟩ := List.exists_cons_of_ne_nil (split_ne_nil '\n' rest)
            rw [split_cons_of_ne hd hs'] at hs
            cases hs
            simp
      have hmark : commentMark = .scalar '/' :: [.scalar '/'] := rfl
      have hfeed : ("\n" : Text) = [.scalar '\n'] := rfl
      simp only [IsCommentLine, BeginsComment, hmark, hfeed, List.cons_prefix_cons, hsecond,
        Ne.symm hc, List.cons_ne_nil, false_and, false_or]

theorem isCommentLine_tail_iff (t : Text) :
    (∀ line ∈ (split '\n' t).tail, IsCommentLine line) ↔ MayEndComment t := by
  induction t with
  | nil =>
    have hnil := mayEndComment_of_notMem (t := []) List.not_mem_nil
    simp [split, hnil]
  | cons c rest ih =>
    obtain ⟨first, more, hs⟩ := List.exists_cons_of_ne_nil (split_ne_nil '\n' rest)
    rw [hs, List.tail_cons] at ih
    by_cases hc : c = .scalar '\n'
    · subst hc
      rw [split, if_pos rfl, List.tail_cons, hs, List.forall_mem_cons, ih,
        isCommentLine_head_iff hs, mayEndComment_cons]
      simp
    · rw [split_cons_of_ne hc hs, List.tail_cons, ih, mayEndComment_cons]
      simp [hc]

instance (line : Text) : Decidable (IsCommentLine line) :=
  inferInstanceAs (Decidable (line = [] ∨ commentMark <+: line))

instance (t : Text) : Decidable (MayEndComment t) := decidable_of_iff _ (isCommentLine_tail_iff t)

instance (t : Text) : Decidable (MayStandInComment t) :=
  decidable_of_iff (MayEndComment t ∧ t.getLast? ≠ some (.scalar '\n'))
    ⟨fun h => ⟨h.1, h.2⟩, fun h => ⟨h.mayEnd, h.getLast?⟩⟩

theorem isCommentLine_split_iff (t : Text) :
    (∀ line ∈ split '\n' t, IsCommentLine line) ↔ BeginsComment t ∧ MayEndComment t := by
  have htail := isCommentLine_tail_iff t
  obtain ⟨first, more, hs⟩ := List.exists_cons_of_ne_nil (split_ne_nil '\n' t)
  rw [hs, List.tail_cons] at htail
  rw [hs, List.forall_mem_cons, htail, isCommentLine_head_iff hs]

/-- The lines of a comment that are not empty have the mark exactly if what the comment says can
    end one. -/
theorem forall_mem_filledLines_iff {t : Text} (h : commentMark <+: t) :
    (∀ line ∈ filledLines t, commentMark <+: line) ↔ MayEndComment t := by
  have hsplit := isCommentLine_split_iff t
  have hbegins : BeginsComment t := .inr (.inr h)
  rw [and_iff_right hbegins] at hsplit
  rw [← hsplit]
  constructor
  · intro hall line hline
    by_cases hnil : line = []
    · exact .inl hnil
    · exact .inr (hall line (List.mem_filter.2 ⟨hline, by simp [hnil]⟩))
  · intro hall line hline
    obtain ⟨hline, hne⟩ := List.mem_filter.1 hline
    rcases hall line hline with rfl | hmark
    · exact absurd hne (by simp)
    · exact hmark

end Text

/-! ### What a method pastes -/

namespace MethodDecl

open Text

structure SignatureMayStand (m : MethodDecl) : Prop where
  name : m.isConstructor = false → MayStandInComment m.name
  params : ∀ param ∈ m.params, MayStandInComment param
  returnType : m.isConstructor = false → MayStandInComment m.returnType

theorem signatureMayStand_iff (m : MethodDecl) :
    MayStandInComment m.signature ↔ m.SignatureMayStand := by
  have hparams := mayStandInComment_join (by decide : IsJoint ", ") m.params
  unfold signature
  split
  · next hc =>
    have hopen : CodePoint.scalar '\n' ∉ ("constructor(" : Text) := by decide
    rw [mayStandInComment_append_joint (by decide), mayStandInComment_append_of_notMem hopen,
      hparams]
    constructor
    · intro h
      exact ⟨fun hf => absurd (hc.symm.trans hf) nofun, h,
        fun hf => absurd (hc.symm.trans hf) nofun⟩
    · exact SignatureMayStand.params
  · next hc =>
    have hfalse : m.isConstructor = false := Bool.eq_false_iff.2 hc
    rw [mayStandInComment_around (by decide), mayStandInComment_around (by decide), hparams]
    constructor
    · rintro ⟨⟨hname, hall⟩, htype⟩
      exact ⟨fun _ => hname, hall, fun _ => htype⟩
    · rintro ⟨hname, hall, htype⟩
      exact ⟨⟨hname hfalse, hall⟩, htype hfalse⟩

theorem mayEndComment_declaration_iff (level : Nat) (m : MethodDecl) :
    MayEndComment (m.declaration level) ↔ m.SignatureMayStand := by
  rw [← signatureMayStand_iff]
  unfold declaration
  split
  · have hfunction : CodePoint.scalar '\n' ∉ ("declare function " : Text) := by decide
    rw [mayEndComment_append_joint (by decide), mayStandInComment_append_of_notMem hfunction]
  · have hstatic : CodePoint.scalar '\n' ∉
        (if m.isStatic then Text.ofString "static " else [] : Text) := by
      split <;> decide
    rw [mayEndComment_append_joint (by decide), mayStandInComment_append_of_notMem hstatic]

theorem notMem_lineText (line : Option Int) : CodePoint.scalar '\n' ∉ lineText line := by
  match line with
  | none => decide
  | some n => exact Text.notMem_ofInt rfl (by decide) n

theorem mayEndComment_invalidText_iff (m : MethodDecl) :
    MayEndComment m.invalidText ↔ MayStandInComment m.name ∧ MayStandInComment m.file := by
  have hmark : CodePoint.scalar '\n' ∉ ("// Invalid declaration of " : Text) := by decide
  have hline : MayStandInComment (lineText m.line) := by
    simpa using (mayStandInComment_append_of_notMem (notMem_lineText m.line) []).2
      mayStandInComment_nil
  unfold invalidText
  rw [mayEndComment_append_joint (by decide), mayStandInComment_around (by decide),
    mayStandInComment_around (by decide), mayStandInComment_append_of_notMem hmark,
    and_iff_left hline]

/-- Whether each text that the comment on a method pastes can stand where it stands. -/
structure PastesComment (m : MethodDecl) : Prop where
  name : MayStandInComment m.name
  file : MayStandInComment m.file
  errors : ∀ error ∈ m.errors, MayEndComment error
  params : ∀ param ∈ m.params, MayStandInComment param
  returnType : m.isConstructor = false → MayStandInComment m.returnType

theorem commented_objectionLines_iff (level : Nat) (m : MethodDecl) :
    (∀ line ∈ m.objectionLines (m.declaration level), commentMark <+: line) ↔
      m.PastesComment := by
  have hinvalid := forall_mem_filledLines_iff (t := m.invalidText) ⟨_, rfl⟩
  have herror (error : Text) := forall_mem_filledLines_iff (t := "//   " ++ error) ⟨_, rfl⟩
  have hdeclaration := forall_mem_filledLines_iff (t := "// " ++ m.declaration level) ⟨_, rfl⟩
  have hbar : ∀ line ∈ [("//" : Text)], commentMark <+: line := by decide
  have hgap : CodePoint.scalar '\n' ∉ ("//   " : Text) := by decide
  have hspace : CodePoint.scalar '\n' ∉ ("// " : Text) := by decide
  rw [mayEndComment_invalidText_iff] at hinvalid
  rw [mayEndComment_append_of_notMem hspace, mayEndComment_declaration_iff] at hdeclaration
  simp only [objectionLines, List.forall_mem_append, hinvalid, hdeclaration,
    List.forall_mem_flatMap, herror, mayEndComment_append_of_notMem hgap]
  constructor
  · rintro ⟨⟨⟨⟨⟨hname, hfile⟩, -⟩, herrors⟩, -⟩, hsignature⟩
    exact ⟨hname, hfile, herrors, hsignature.params, hsignature.returnType⟩
  · rintro ⟨hname, hfile, herrors, hparams, htype⟩
    exact ⟨⟨⟨⟨⟨hname, hfile⟩, hbar⟩, herrors⟩, hbar⟩, fun _ => hname, hparams, htype⟩

end MethodDecl

/-! ### Members -/

namespace PropertyDecl

open Text

theorem mayEndComment_invalidText_iff (p : PropertyDecl) :
    MayEndComment p.invalidText ↔ MayStandInComment p.name ∧ MayStandInComment p.file := by
  have hmark : CodePoint.scalar '\n' ∉ ("// Property " : Text) := by decide
  have hquote : CodePoint.scalar '\n' ∉ ("\"" : Text) := by decide
  have hcited : MayStandInComment (Objection.cited p.name) ↔ MayStandInComment p.name := by
    unfold Objection.cited
    rw [mayStandInComment_append_joint (by decide), mayStandInComment_append_of_notMem hquote]
  unfold invalidText
  rw [mayEndComment_append_joint (by decide), mayStandInComment_around (by decide),
    mayStandInComment_append_of_notMem hmark, hcited]

end PropertyDecl

namespace UnsupportedDecl

open Text

theorem mayEndComment_commentText_iff (u : UnsupportedDecl) :
    MayEndComment u.commentText ↔ MayStandInComment u.label ∧ MayStandInComment u.name := by
  have hmark : CodePoint.scalar '\n' ∉ ("// Not annotated: " : Text) := by decide
  have hquote : CodePoint.scalar '\n' ∉ ("\"" : Text) := by decide
  have hcited : MayEndComment (Objection.cited u.name) ↔ MayStandInComment u.name := by
    unfold Objection.cited
    rw [mayEndComment_append_joint (by decide), mayStandInComment_append_of_notMem hquote]
  unfold commentText
  rw [mayEndComment_around (by decide), mayStandInComment_append_of_notMem hmark, hcited]

end UnsupportedDecl

namespace Member

open Text

def IsCommentedOut : Member → Prop
  | method m => m.errors ≠ []
  | property p => p.isValid = false
  | unsupported _ => True

def PastesComment : Member → Prop
  | method m => m.PastesComment
  | property p => MayStandInComment p.name ∧ MayStandInComment p.file
  | unsupported u => MayStandInComment u.label ∧ MayStandInComment u.name

/-- What a member that is commented out writes, up to empty lines. -/
theorem exists_writes_of_isCommentedOut {m : Member} (h : m.IsCommentedOut) (level : Nat) :
    ∃ lines, Writes (m.commands level) lines ∧
      ((∀ line ∈ lines, commentMark <+: line) ↔ m.PastesComment) := by
  have hfile := Writes.sourceFile m.file
  cases m with
  | method m =>
    have hwrites := m.writes_commands level
    have hempty : ¬ m.errors.isEmpty = true := by simpa [IsCommentedOut] using h
    rw [MethodDecl.declaredLines, if_neg hempty] at hwrites
    refine ⟨_, hfile.append hwrites, ?_⟩
    rw [List.nil_append, m.commented_objectionLines_iff level]
    rfl
  | property p =>
    have hinvalid : p.isValid = false := h
    have hcommands : p.commands level = [.sectionBreak, .emit p.invalidText, .sectionBreak] := by
      simp [PropertyDecl.commands, hinvalid]
    refine ⟨_, hfile.append (hcommands ▸ p.writes_invalid), ?_⟩
    rw [List.nil_append, forall_mem_filledLines_iff (t := p.invalidText) ⟨_, rfl⟩,
      p.mayEndComment_invalidText_iff]
    rfl
  | unsupported u =>
    refine ⟨_, hfile.append (Writes.emit u.commentText), ?_⟩
    rw [List.nil_append, forall_mem_filledLines_iff (t := u.commentText) ⟨_, rfl⟩,
      u.mayEndComment_commentText_iff]
    rfl

/-- **When a member stays commented out.**  A member that cannot be declared is written on any
    sheet, and each line that this adds to the sheet is empty or has, behind the margin, the mark
    of a comment, exactly if each text that is pasted into the comment can stand there. -/
theorem commented_iff {m : Member} (h : m.IsCommentedOut) (s : Sheet) :
    ∃ s' added, s.run (m.commands s.level) = .ok s' ∧
      s'.lines.toList = s.lines.toList ++ added ∧
      ((∀ line ∈ added, line = [] ∨ ∃ rest, line = Sheet.margin s.level ++ ("//" ++ rest)) ↔
        m.PastesComment) := by
  obtain ⟨lines, hwrites, hiff⟩ := exists_writes_of_isCommentedOut h s.level
  obtain ⟨s', hrun, -, added, hadded, -, hfilled⟩ := hwrites s
  refine ⟨s', added, hrun, hadded, ?_⟩
  rw [← hiff]
  constructor
  · intro hall line hline
    -- a line that is written is found among the added ones behind the margin
    have hmem : Sheet.margin s.level ++ line ∈ added.filter fun line => !line.isEmpty := by
      rw [hfilled]
      exact List.mem_map_of_mem hline
    obtain ⟨hmem, hne⟩ := List.mem_filter.1 hmem
    rcases hall _ hmem with hnil | ⟨rest, hrest⟩
    · rw [hnil] at hne
      exact absurd hne (by simp)
    · exact ⟨rest, (List.append_cancel_left hrest).symm⟩
  · intro hall line hline
    by_cases hnil : line = []
    · exact .inl hnil
    · right
      have hmem : line ∈ added.filter fun line => !line.isEmpty :=
        List.mem_filter.2 ⟨hline, by simp [hnil]⟩
      rw [hfilled] at hmem
      obtain ⟨inner, hinner, rfl⟩ := List.mem_map.1 hmem
      obtain ⟨rest, rfl⟩ := hall inner hinner
      exact ⟨rest, rfl⟩

/-! ### A member that stays in its comment, and one that does not -/

def spinMethod : MethodDecl where
  name := "spin"
  params := ["speed: any"]
  returnType := "void"
  isConstructor := false
  isStatic := false
  description := []
  file := "src/spin.js\n// (generated)"
  line := some 3
  errors := ["param \"speed\" has invalid type: Frob"]

/-- The second line of the file name is a comment in its own right. -/
theorem commented_spin :
    ∃ s' added, Sheet.run ⟨#["declare class p5 \x7b"], 1, []⟩ ((method spinMethod).commands 1) =
        .ok s' ∧
      s'.lines.toList = [("declare class p5 \x7b" : Text)] ++ added ∧
      ∀ line ∈ added, line = [] ∨ ∃ rest, line = Sheet.margin 1 ++ ("//" ++ rest) := by
  have hout : (method spinMethod).IsCommentedOut := List.cons_ne_nil _ _
  have hpastes : (method spinMethod).PastesComment := by
    refine ⟨by decide, by decide, by decide, by decide, ?_⟩
    intro _
    decide
  obtain ⟨s', added, hrun, hadded, hiff⟩ :=
    commented_iff hout ⟨#["declare class p5 \x7b"], 1, []⟩
  exact ⟨s', added, hrun, hadded, hiff.2 hpastes⟩

def mouseItem : ItemDoc where
  params := []
  returned := none
  isStatic := false
  isChainable := false
  line := none
  file := "src/mouse.js"
  description := []
  isConstructor := false
  overloads := none
  name := "mouse\nmoved"
  owner := "p5"
  kind := .other "event"
  type := none
  defaultValue := none
  isFinal := false

def mouseSchema : Schema :=
  ⟨.ofList [("p5", ⟨⟨⟨[], none, false, false, none⟩, [], [], false, none, "p5"⟩, none⟩)],
    [mouseItem]⟩

def mouseMember : Member := unsupported ⟨"mouse\nmoved", "event", "src/mouse.js"⟩

/-- The comment on an event with a line feed in its name goes on in a line without a mark. -/
theorem uncommented_mouse :
    ((Build.run .standard mouseSchema).result.map Model.members).toOption = some [mouseMember] ∧
    mouseMember.IsCommentedOut ∧
    ∃ s', Sheet.blank.run (mouseMember.commands 0) = .ok s' ∧
      s'.lines.toList = [("// Not annotated: event \"mouse" : Text), "moved\""] ∧
      ¬ (("moved\"" : Text) = [] ∨
        ∃ rest, ("moved\"" : Text) = Sheet.margin 0 ++ ("//" ++ rest)) := by
  refine ⟨by decide +kernel, trivial, ⟨#["// Not annotated: event \"mouse", "moved\""], 0,
    "src/mouse.js"⟩, by decide +kernel, rfl, ?_⟩
  rintro (hnil | ⟨rest, hrest⟩)
  · exact absurd hnil (by decide)
  · exact absurd (List.cons.inj hrest).1 (by decide)

end Member

end Ambient
