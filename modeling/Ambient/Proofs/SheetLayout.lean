/-
  Ambient/Proofs/SheetLayout.lean
  ===============================
  **How the two files are laid out.**

  Empty lines come onto a sheet in three ways: from a section break, from a line feed at the end of
  an emitted text, and from the empty line behind a method with objections.  None of them ever
  follows another empty line, and none comes first.  The invariant is said of the sheet with one
  empty line in front of it (`Sheet.Spaced`), so that the top needs no case of its own; every part
  of the two forms keeps it (`KeepsSpacing`), as long as what it emits are lines.

  Where a block is open, the lines that are not empty have one indentation more.  What a run adds
  is therefore cut at the lines that open and close the root class, the namespace, and each class
  in it (`Sheet.Adds`, `Model.adds_moduleCommands`).
-/
import Ambient.Proofs.CommentedMembers
import Mathlib.Data.List.Chain
import Mathlib.Data.List.Forall2

namespace Ambient

/-! ### The strings of a model -/

def MethodDecl.texts (m : MethodDecl) : List Text :=
  m.name :: m.returnType :: m.file :: (m.params ++ m.errors)

def PropertyDecl.texts (p : PropertyDecl) : List Text :=
  p.name :: p.type :: p.file :: p.value.toList

def UnsupportedDecl.texts (u : UnsupportedDecl) : List Text := [u.name, u.label, u.file]

def Member.texts : Member → List Text
  | method m => m.texts
  | property p => p.texts
  | unsupported u => u.texts

def AliasBlock.texts (b : AliasBlock) : List Text := b.className :: b.members.flatMap Member.texts

def ClassDecl.texts (c : ClassDecl) : List Text :=
  c.className :: c.name :: c.file :: (c.parent.toList ++ c.members.flatMap Member.texts)

def Model.texts (m : Model) : List Text :=
  m.rootName :: (m.aliases.flatMap AliasBlock.texts ++ m.classes.flatMap ClassDecl.texts ++
    (m.constants.entries.flatMap fun e => e.1 :: e.2) ++
    m.unknownTypes.entries.flatMap fun e => [e.1, e.2])

/-! ### Lines -/

namespace Text

/-- A text that is one line, and no empty one. -/
structure IsLine (t : Text) : Prop where
  ne_nil : t ≠ []
  notMem : CodePoint.scalar '\n' ∉ t

instance (t : Text) : Decidable (IsLine t) :=
  decidable_of_iff (t ≠ [] ∧ CodePoint.scalar '\n' ∉ t)
    ⟨fun h => ⟨h.1, h.2⟩, fun h => ⟨h.ne_nil, h.notMem⟩⟩

theorem IsLine.append {a b : Text} (ha : IsLine a) (hb : CodePoint.scalar '\n' ∉ b) :
    IsLine (a ++ b) :=
  ⟨List.append_ne_nil_of_left_ne_nil ha.ne_nil b, notMem_append ha.notMem hb⟩

theorem IsLine.prepend {a b : Text} (hb : IsLine b) (ha : CodePoint.scalar '\n' ∉ a) :
    IsLine (a ++ b) :=
  ⟨List.append_ne_nil_of_right_ne_nil a hb.ne_nil, notMem_append ha hb.notMem⟩

theorem isLine_of_filledLines {t : Text} (h : filledLines t = [t]) : IsLine t := by
  have hmem : t ∈ filledLines t := by
    rw [h]
    exact List.mem_singleton_self t
  obtain ⟨hpiece, hne⟩ := List.mem_filter.1 hmem
  exact ⟨by simpa using hne, not_mem_of_mem_split hpiece⟩

end Text

open Text (IsLine)

/-! ### Spacing -/

namespace Sheet

/-- Among the lines, with an empty one in front, no two that follow each other are empty. -/
def Spaced (s : Sheet) : Prop := ([] :: s.lines.toList).IsChain fun a b => a ≠ [] ∨ b ≠ []

theorem spaced_blank : blank.Spaced := List.isChain_singleton []

theorem Spaced.concat {s s' : Sheet} {line : Text} (h : s.Spaced)
    (hlines : s'.lines.toList = s.lines.toList ++ [line])
    (hjunction : s.lines.toList.getLastD [] ≠ [] ∨ line ≠ []) : s'.Spaced := by
  unfold Spaced
  rw [hlines, ← List.cons_append, List.isChain_append]
  refine ⟨h, List.isChain_singleton line, ?_⟩
  intro last hlast line' hline
  obtain rfl : line = line' := Option.some.inj hline
  rw [Option.mem_def, List.getLast?_cons, Option.some_inj] at hlast
  rwa [← hlast, ← List.getLastD_eq_getLast?]

structure WellSpaced (lines : List Text) : Prop where
  first : ∃ line rest, lines = line :: rest ∧ line ≠ []
  apart : ∀ before after, lines ≠ before ++ [] :: [] :: after

theorem Spaced.wellSpaced {s : Sheet} (h : s.Spaced) (hne : s.lines.toList ≠ []) :
    WellSpaced s.lines.toList := by
  unfold Spaced at h
  constructor
  · obtain ⟨line, rest, hlines⟩ := List.exists_cons_of_ne_nil hne
    rw [hlines, List.isChain_cons_cons] at h
    exact ⟨line, rest, hlines, h.1.resolve_left (absurd rfl)⟩
  · intro before after hlines
    rw [hlines, ← List.cons_append, List.isChain_append, List.isChain_cons_cons] at h
    rcases h.2.1.1 with hempty | hempty
    · exact hempty rfl
    · exact hempty rfl

theorem emit_lines {t : Text} (h : CodePoint.scalar '\n' ∉ t) (s : Sheet) :
    (s.emit t).lines.toList = s.lines.toList ++ [indented s.level t] := by
  simp [emit, Text.split_of_notMem h]

theorem indented_of_ne_nil {t : Text} (h : t ≠ []) (level : Nat) :
    indented level t = margin level ++ t := by
  simp [indented, h]

theorem indented_ne_nil {t : Text} (h : t ≠ []) (level : Nat) : indented level t ≠ [] := by
  rw [indented_of_ne_nil h]
  exact List.append_ne_nil_of_right_ne_nil _ h

theorem Spaced.emit {s : Sheet} (h : s.Spaced) {t : Text} (ht : IsLine t) : (s.emit t).Spaced :=
  h.concat (emit_lines ht.notMem s) (Or.inr (indented_ne_nil ht.ne_nil s.level))

theorem Spaced.emits {f : Text → Text} {lines : List Text} (hf : ∀ line ∈ lines, IsLine (f line))
    {s : Sheet} (h : s.Spaced) : (lines.foldl (fun s line => s.emit (f line)) s).Spaced := by
  induction lines generalizing s with
  | nil => exact h
  | cons line rest ih =>
    rw [List.forall_mem_cons] at hf
    exact ih hf.2 (h.emit hf.1)

/-- An empty line behind one that is not. -/
theorem Spaced.emit_blank {s : Sheet} (h : s.Spaced) {t : Text} (ht : IsLine t) :
    ((s.emit t).emit []).Spaced := by
  refine (h.emit ht).concat (emit_lines List.not_mem_nil _) (Or.inl ?_)
  rw [emit_lines ht.notMem, List.getLastD_concat]
  exact indented_ne_nil ht.ne_nil s.level

theorem emit_lineFeed {t : Text} (h : CodePoint.scalar '\n' ∉ t) (s : Sheet) :
    s.emit (t ++ "\n") = (s.emit t).emit [] := by
  have hcut : (t ++ "\n" : Text) = t ++ .scalar '\n' :: [] := rfl
  rw [hcut, emit, Text.split_append_cons, Text.split_of_notMem h]
  simp [emit, Text.split_of_notMem h, Text.split]

theorem Spaced.sectionBreak {s : Sheet} (h : s.Spaced) : s.sectionBreak.Spaced := by
  unfold Sheet.sectionBreak
  split
  · exact h
  · next last hlast =>
    split
    · exact h
    · next hne =>
      have hlines : (s.lines.push []).toList = s.lines.toList ++ [[]] := Array.toList_push
      refine h.concat hlines (Or.inl ?_)
      rw [List.getLastD_eq_getLast?, Array.getLast?_toList, hlast]
      simpa using hne

theorem Spaced.description {s : Sheet} (h : s.Spaced) (text : Text) :
    (s.description text).Spaced := by
  have hlines : ∀ line ∈ descriptionLines text, IsLine (commentLine line) := by
    intro line hline
    exact Text.isLine_of_filledLines
      (filledLines_commentLine (notMem_of_mem_descriptionLines hline))
  unfold Sheet.description
  cases hall : descriptionLines text with
  | nil => exact h
  | cons line rest =>
    rw [hall] at hlines
    exact ((h.emit (by decide)).emits hlines).emit (by decide)

end Sheet

def KeepsSpacing (commands : List Command) : Prop :=
  ∀ s s' : Sheet, s.Spaced → s.run commands = .ok s' → s'.Spaced

namespace KeepsSpacing

theorem single {c : Command} (h : ∀ s s' : Sheet, s.Spaced → s.apply c = .ok s' → s'.Spaced) :
    KeepsSpacing [c] := by
  intro s s' hs hrun
  cases happly : s.apply c with
  | ok mid =>
    simp only [Sheet.run, happly] at hrun
    obtain rfl : mid = s' := Except.ok.inj hrun
    exact h s mid hs happly
  | error e =>
    simp only [Sheet.run, happly] at hrun
    cases hrun

theorem nil : KeepsSpacing [] := by
  intro s s' hs hrun
  cases hrun
  exact hs

theorem append {commands more : List Command} (h : KeepsSpacing commands)
    (h' : KeepsSpacing more) : KeepsSpacing (commands ++ more) := by
  intro s s' hs hrun
  rw [Sheet.run_append] at hrun
  cases hmid : s.run commands with
  | error e =>
    rw [hmid] at hrun
    exact nomatch hrun
  | ok mid =>
    rw [hmid] at hrun
    exact h' mid s' (h s mid hs hmid) hrun

theorem flatMap {α : Type} {f : α → List Command} {items : List α}
    (h : ∀ item ∈ items, KeepsSpacing (f item)) : KeepsSpacing (items.flatMap f) := by
  induction items with
  | nil => exact nil
  | cons item rest ih =>
    rw [List.forall_mem_cons] at h
    rw [List.flatMap_cons]
    exact h.1.append (ih h.2)

theorem emit {t : Text} (ht : IsLine t) : KeepsSpacing [.emit t] := by
  apply single
  intro s s' hs happly
  cases happly
  exact hs.emit ht

theorem emits {α : Type} {f : α → Text} {items : List α} (h : ∀ item ∈ items, IsLine (f item)) :
    KeepsSpacing (items.map fun item => .emit (f item)) := by
  rw [List.map_eq_flatMap]
  exact flatMap fun item hitem => emit (h item hitem)

theorem emit_lineFeed {t : Text} (ht : IsLine t) : KeepsSpacing [.emit (t ++ "\n")] := by
  apply single
  intro s s' hs happly
  cases happly
  rw [Sheet.emit_lineFeed ht.notMem]
  exact hs.emit_blank ht

theorem emit_blank {t : Text} (ht : IsLine t) : KeepsSpacing [.emit t, .emit []] := by
  intro s s' hs hrun
  cases hrun
  exact hs.emit_blank ht

theorem sectionBreak : KeepsSpacing [.sectionBreak] := by
  apply single
  intro s s' hs happly
  cases happly
  exact hs.sectionBreak

theorem description (text : Text) : KeepsSpacing [.description text] := by
  apply single
  intro s s' hs happly
  cases happly
  exact hs.description text

/-- A command that leaves the lines as they are. -/
theorem silent {c : Command} (h : ∀ s s' : Sheet, s.apply c = .ok s' → s'.lines = s.lines) :
    KeepsSpacing [c] := by
  apply single
  intro s s' hs happly
  unfold Sheet.Spaced
  rwa [h s s' happly]

theorem sourceFile (file : Text) : KeepsSpacing [.sourceFile file] := by
  apply silent
  intro s s' happly
  cases happly
  rfl

theorem indent : KeepsSpacing [.indent] := by
  apply silent
  intro s s' happly
  cases happly
  rfl

theorem dedent : KeepsSpacing [.dedent] := by
  apply silent
  intro s s' happly
  cases hlevel : s.level with
  | zero =>
    simp only [Sheet.apply, Sheet.dedent, hlevel] at happly
    cases happly
  | succ level =>
    simp only [Sheet.apply, Sheet.dedent, hlevel] at happly
    cases happly
    rfl

end KeepsSpacing

/-! ### The parts of the two forms -/

theorem Objection.notMem_cited {name : Text} (h : CodePoint.scalar '\n' ∉ name) :
    CodePoint.scalar '\n' ∉ cited name :=
  Text.notMem_append (Text.notMem_append (by decide) h) (by decide)

namespace MethodDecl

variable {m : MethodDecl} (h : ∀ t ∈ m.texts, CodePoint.scalar '\n' ∉ t)

include h

theorem notMem_signature : CodePoint.scalar '\n' ∉ m.signature := by
  have hname : CodePoint.scalar '\n' ∉ m.name := h _ (by simp [texts])
  have hreturn : CodePoint.scalar '\n' ∉ m.returnType := h _ (by simp [texts])
  have hparams : CodePoint.scalar '\n' ∉ Text.join ", " m.params :=
    Text.notMem_join (by decide) fun p hp => h p (by simp [texts, hp])
  simp only [signature]
  split
  · exact Text.notMem_append (Text.notMem_append (by decide) hparams) (by decide)
  · exact Text.notMem_append (Text.notMem_append (Text.notMem_append
      (Text.notMem_append hname (by decide)) hparams) (by decide)) hreturn

theorem isLine_declaration (level : Nat) : IsLine (m.declaration level) := by
  have hsignature := notMem_signature h
  have hend : IsLine (";" : Text) := by decide
  unfold declaration
  split
  · exact hend.prepend (Text.notMem_append (by decide) hsignature)
  · apply hend.prepend
    apply Text.notMem_append _ hsignature
    split <;> decide

theorem isLine_invalidText : IsLine m.invalidText := by
  have hname : CodePoint.scalar '\n' ∉ m.name := h _ (by simp [texts])
  have hfile : CodePoint.scalar '\n' ∉ m.file := h _ (by simp [texts])
  have hmark : IsLine ("// Invalid declaration of " : Text) := by decide
  exact (((((hmark.append hname).append (by decide)).append hfile).append (by decide)).append
    (notMem_lineText m.line)).append (by decide)

theorem keepsSpacing_commands (level : Nat) : KeepsSpacing (m.commands level) := by
  unfold commands
  split
  · exact (KeepsSpacing.description _).append (KeepsSpacing.emit (isLine_declaration h level))
  · have hbar : KeepsSpacing [.emit "//"] := KeepsSpacing.emit (by decide)
    have hhead : KeepsSpacing [.sectionBreak, .emit m.invalidText, .emit "//"] :=
      KeepsSpacing.sectionBreak.append ((KeepsSpacing.emit (isLine_invalidText h)).append hbar)
    have herrors : KeepsSpacing (m.errors.map fun error => .emit ("//   " ++ error)) := by
      apply KeepsSpacing.emits
      intro error herror
      have hmark : IsLine ("//   " : Text) := by decide
      exact hmark.append (h error (by simp [texts, herror]))
    have hmark : IsLine ("// " : Text) := by decide
    have hlast := KeepsSpacing.emit_blank (hmark.append (isLine_declaration h level).notMem)
    have hall := (hhead.append herrors).append (hbar.append hlast)
    exact hall

end MethodDecl

namespace PropertyDecl

variable {p : PropertyDecl} (h : ∀ t ∈ p.texts, CodePoint.scalar '\n' ∉ t)

include h

theorem notMem_signature : CodePoint.scalar '\n' ∉ p.signature := by
  have hname : CodePoint.scalar '\n' ∉ p.name := h _ (by simp [texts])
  have htype : CodePoint.scalar '\n' ∉ p.literal?.getD p.type := by
    cases hliteral : p.literal? with
    | none => exact h _ (by simp [texts])
    | some value =>
      have hvalue : p.value = some value := (Option.filter_eq_some_iff.1 hliteral).1
      exact h value (by simp [texts, hvalue])
  exact Text.notMem_append (Text.notMem_append hname (by decide)) htype

theorem keepsSpacing_commands (level : Nat) : KeepsSpacing (p.commands level) := by
  have hend : IsLine (";" : Text) := by decide
  have hglobal : IsLine p.globalDeclaration := by
    apply hend.prepend
    refine Text.notMem_append (Text.notMem_append (Text.notMem_append (by decide) ?_) (by decide))
      (notMem_signature h)
    split <;> decide
  have hmember : IsLine p.memberDeclaration := hend.prepend (notMem_signature h)
  unfold commands
  split
  · have hname : CodePoint.scalar '\n' ∉ p.name := h _ (by simp [texts])
    have hfile : CodePoint.scalar '\n' ∉ p.file := h _ (by simp [texts])
    have hmark : IsLine ("// Property " : Text) := by decide
    have htext : IsLine p.invalidText :=
      (((hmark.append (Objection.notMem_cited hname)).append (by decide)).append hfile).append
        (by decide)
    exact KeepsSpacing.sectionBreak.append
      ((KeepsSpacing.emit htext).append KeepsSpacing.sectionBreak)
  · split
    · exact (KeepsSpacing.description _).append (KeepsSpacing.emit hglobal)
    · split
      · exact (KeepsSpacing.description _).append (KeepsSpacing.emit hmember)
      · exact KeepsSpacing.nil

end PropertyDecl

theorem Member.keepsSpacing_commands {m : Member}
    (h : ∀ t ∈ m.texts, CodePoint.scalar '\n' ∉ t) (level : Nat) :
    KeepsSpacing (m.commands level) := by
  apply (KeepsSpacing.sourceFile m.file).append
  cases m with
  | method m => exact m.keepsSpacing_commands h level
  | property p => exact p.keepsSpacing_commands h level
  | unsupported u =>
    have hlabel : CodePoint.scalar '\n' ∉ u.label := h _ (by simp [texts, UnsupportedDecl.texts])
    have hname : CodePoint.scalar '\n' ∉ u.name := h _ (by simp [texts, UnsupportedDecl.texts])
    have hmark : IsLine ("// Not annotated: " : Text) := by decide
    exact KeepsSpacing.emit
      (((hmark.append hlabel).append (by decide)).append (Objection.notMem_cited hname))

theorem keepsSpacing_members {members : List Member}
    (h : ∀ t ∈ members.flatMap Member.texts, CodePoint.scalar '\n' ∉ t) (level : Nat) :
    KeepsSpacing (members.flatMap (Member.commands level)) := by
  apply KeepsSpacing.flatMap
  intro m hm
  exact m.keepsSpacing_commands (fun t ht => h t (List.mem_flatMap.2 ⟨m, hm, ht⟩)) level

theorem AliasBlock.keepsSpacing_commands {b : AliasBlock}
    (h : ∀ t ∈ b.texts, CodePoint.scalar '\n' ∉ t) (level : Nat) :
    KeepsSpacing (b.commands level) := by
  obtain ⟨hname, hmembers⟩ := List.forall_mem_cons.1 h
  have hmark : IsLine ("// Properties from " : Text) := by decide
  have hheading := (KeepsSpacing.emit (hmark.append hname)).append KeepsSpacing.sectionBreak
  exact (KeepsSpacing.sectionBreak.append hheading).append (keepsSpacing_members hmembers level)

namespace ClassDecl

variable {c : ClassDecl} (h : ∀ t ∈ c.texts, CodePoint.scalar '\n' ∉ t)

include h

theorem isLine_openingText : IsLine c.openingText := by
  have hname : CodePoint.scalar '\n' ∉ c.name := h _ (by simp [texts])
  have hparent : CodePoint.scalar '\n' ∉ c.parent.getD [] := by
    cases hsome : c.parent with
    | none => exact List.not_mem_nil
    | some parent => exact h parent (by simp [texts, hsome])
  have hmark : IsLine ("class " : Text) := by decide
  refine ((hmark.append hname).append ?_).append (by decide)
  split
  · exact List.not_mem_nil
  · exact Text.notMem_append (by decide) hparent

theorem keepsSpacing_commands (level : Nat) : KeepsSpacing (c.commands level) := by
  have hmembers : ∀ t ∈ c.members.flatMap Member.texts, CodePoint.scalar '\n' ∉ t := by
    intro t ht
    apply h t
    unfold texts
    exact List.mem_cons_of_mem _ (List.mem_cons_of_mem _ (List.mem_cons_of_mem _
      (List.mem_append_right _ ht)))
  have hopening := (KeepsSpacing.sourceFile c.file).append
    ((KeepsSpacing.emit (isLine_openingText h)).append KeepsSpacing.indent)
  have hclosing : KeepsSpacing [.dedent, .emit "\x7d"] :=
    KeepsSpacing.dedent.append (KeepsSpacing.emit (by decide))
  exact (hopening.append (keepsSpacing_members hmembers (level + 1))).append hclosing

end ClassDecl

theorem keepsSpacing_constantCommands {constants : Table (List Text)}
    (h : ∀ t ∈ constants.entries.flatMap fun e => e.1 :: e.2, CodePoint.scalar '\n' ∉ t) :
    KeepsSpacing (constantCommands constants) := by
  unfold constantCommands
  split
  · exact KeepsSpacing.nil
  · have hheading : KeepsSpacing [.sectionBreak, .emit "// Constants", .sectionBreak] :=
      KeepsSpacing.sectionBreak.append
        ((KeepsSpacing.emit (by decide)).append KeepsSpacing.sectionBreak)
    apply hheading.append
    apply KeepsSpacing.emits
    rintro ⟨name, values⟩ hentry
    have htexts : ∀ t ∈ name :: values, CodePoint.scalar '\n' ∉ t := by
      intro t ht
      exact h t (List.mem_flatMap.2 ⟨(name, values), hentry, ht⟩)
    obtain ⟨hname, hvalues⟩ := List.forall_mem_cons.1 htexts
    have hmark : IsLine ("type " : Text) := by decide
    refine (((hmark.append hname).append (by decide)).append ?_).append (by decide)
    apply Text.notMem_join (by decide)
    intro t ht
    obtain ⟨value, hvalue, rfl⟩ := List.mem_map.1 ht
    exact Text.notMem_append (by decide) (hvalues value hvalue)

namespace Model

variable {m : Model} (h : ∀ t ∈ m.texts, CodePoint.scalar '\n' ∉ t)

include h

theorem keepsSpacing_aliases (level : Nat) :
    KeepsSpacing (m.aliases.flatMap (AliasBlock.commands level)) := by
  apply KeepsSpacing.flatMap
  intro b hb
  apply b.keepsSpacing_commands
  intro t ht
  apply h t
  unfold texts
  simp only [List.mem_cons, List.mem_append, List.mem_flatMap]
  exact Or.inr (Or.inl (Or.inl (Or.inl ⟨b, hb, ht⟩)))

theorem notMem_texts_class {c : ClassDecl} (hc : c ∈ m.classes) :
    ∀ t ∈ c.texts, CodePoint.scalar '\n' ∉ t := by
  intro t ht
  apply h t
  unfold texts
  simp only [List.mem_cons, List.mem_append, List.mem_flatMap]
  exact Or.inr (Or.inl (Or.inl (Or.inr ⟨c, hc, ht⟩)))

theorem isLine_rootOpening (kind : Text) (hkind : IsLine kind) :
    IsLine (kind ++ m.rootName ++ " \x7b") := by
  have hname : CodePoint.scalar '\n' ∉ m.rootName := h _ List.mem_cons_self
  exact (hkind.append hname).append (by decide)

theorem keepsSpacing_moduleCommands (level : Nat) : KeepsSpacing (m.moduleCommands level) := by
  have hroot : KeepsSpacing [.emit ("declare class " ++ m.rootName ++ " \x7b"), .indent] :=
    (KeepsSpacing.emit (isLine_rootOpening h _ (by decide))).append KeepsSpacing.indent
  have hnamespace : KeepsSpacing [.dedent, .emit "\x7d\n",
      .emit ("declare namespace " ++ m.rootName ++ " \x7b"), .indent] :=
    KeepsSpacing.dedent.append ((KeepsSpacing.emit_lineFeed (t := "\x7d") (by decide)).append
      ((KeepsSpacing.emit (isLine_rootOpening h _ (by decide))).append KeepsSpacing.indent))
  have hend : KeepsSpacing [.dedent, .emit "\x7d\n"] :=
    KeepsSpacing.dedent.append (KeepsSpacing.emit_lineFeed (t := "\x7d") (by decide))
  have hclasses : KeepsSpacing (m.classes.flatMap (ClassDecl.commands (level + 1))) :=
    KeepsSpacing.flatMap fun c hc => c.keepsSpacing_commands (notMem_texts_class h hc) (level + 1)
  exact (((hroot.append (keepsSpacing_aliases h (level + 1))).append hnamespace).append
    hclasses).append hend

theorem exists_reference :
    ∃ reference, IsLine reference ∧ m.referenceText = reference ++ "\n" := by
  have hname : CodePoint.scalar '\n' ∉ m.rootName := h _ List.mem_cons_self
  have hmark : IsLine ("///<reference path=\"" : Text) := by decide
  refine ⟨"///<reference path=\"" ++ m.rootName ++ ".d.ts\" />",
    (hmark.append hname).append (by decide), ?_⟩
  rw [List.append_assoc ("///<reference path=\"" ++ m.rootName : Text)]
  rfl

theorem keepsSpacing_globalCommands (level : Nat) : KeepsSpacing (m.globalCommands level) := by
  have hreference : KeepsSpacing [.emit m.referenceText] := by
    obtain ⟨reference, hline, hcut⟩ := exists_reference h
    rw [hcut]
    exact KeepsSpacing.emit_lineFeed hline
  have hconstants : KeepsSpacing (constantCommands m.constants) := by
    apply keepsSpacing_constantCommands
    intro t ht
    apply h t
    unfold texts
    exact List.mem_cons_of_mem _ (List.mem_append_left _ (List.mem_append_right _ ht))
  exact (hreference.append (keepsSpacing_aliases h level)).append hconstants

end Model

/-! ### Blocks -/

namespace Sheet

/-- A run of commands that ends on the level it began on, and the lines that it adds. -/
structure Adds (s : Sheet) (commands : List Command) (added : List Text) (s' : Sheet) : Prop where
  run : s.run commands = .ok s'
  level : s'.level = s.level
  lines : s'.lines.toList = s.lines.toList ++ added

theorem Adds.trans {s mid s' : Sheet} {commands more : List Command} {added others : List Text}
    (h : s.Adds commands added mid) (h' : mid.Adds more others s') :
    s.Adds (commands ++ more) (added ++ others) s' := by
  refine ⟨?_, h'.level.trans h.level, ?_⟩
  · rw [run_append, h.run]
    exact h'.run
  · rw [h'.lines, h.lines, List.append_assoc]

/-- What is added between an indent and a dedent. -/
theorem Adds.nested {s s' : Sheet} {commands : List Command} {added : List Text}
    (h : s.indent.Adds commands added s') :
    s.Adds ([.indent] ++ commands ++ [.dedent]) added { s' with level := s.level } :=
  ⟨run_nested h.run h.level, rfl, h.lines⟩

theorem adds_emit {t : Text} (ht : IsLine t) (s : Sheet) :
    s.Adds [.emit t] [margin s.level ++ t] (s.emit t) := by
  refine ⟨rfl, rfl, ?_⟩
  rw [emit_lines ht.notMem, indented_of_ne_nil ht.ne_nil]

theorem adds_emit_lineFeed {t : Text} (ht : IsLine t) (s : Sheet) :
    s.Adds [.emit (t ++ "\n")] [margin s.level ++ t, []] ((s.emit t).emit []) := by
  have hrun : s.run [.emit (t ++ "\n")] = .ok (s.emit (t ++ "\n")) := rfl
  rw [emit_lineFeed ht.notMem] at hrun
  refine ⟨hrun, rfl, ?_⟩
  rw [emit_lines List.not_mem_nil, emit_lines ht.notMem, indented_of_ne_nil ht.ne_nil]
  exact List.append_assoc _ _ _

/-- A line, and what is added one level further in behind it. -/
theorem Adds.block {s s' : Sheet} {opening : Text} {commands : List Command} {added : List Text}
    (hopening : IsLine opening) (h : (s.emit opening).indent.Adds commands added s') :
    s.Adds ([.emit opening] ++ ([.indent] ++ commands ++ [.dedent]))
      ([margin s.level ++ opening] ++ added) { s' with level := s.level } :=
  (adds_emit hopening s).trans h.nested

theorem adds_sourceFile (s : Sheet) (file : Text) : s.Adds [.sourceFile file] [] (s.about file) :=
  ⟨rfl, rfl, (List.append_nil _).symm⟩

/-- Lines of which each has the indentation of a level in front of it, unless it is empty. -/
def Inside (level : Nat) (lines : List Text) : Prop :=
  ∀ line ∈ lines, line ≠ [] → margin level <+: line

end Sheet

open Sheet (Inside margin)

/-- What commands add to a sheet is inside its level. -/
theorem Writes.adds {commands : List Command} {lines : List Text} (h : Writes commands lines)
    (s : Sheet) : ∃ added s', s.Adds commands added s' ∧ Inside s.level added := by
  obtain ⟨s', hrun, hlevel, added, hlines, -, hadded⟩ := h s
  refine ⟨added, s', ⟨hrun, hlevel, hlines⟩, ?_⟩
  intro line hline hne
  have hfilled : line ∈ added.filter fun line => !line.isEmpty :=
    List.mem_filter.2 ⟨hline, by simpa using hne⟩
  rw [hadded] at hfilled
  obtain ⟨text, -, rfl⟩ := List.mem_map.1 hfilled
  exact List.prefix_append _ _

/-- The lines of a class: the one that opens it, its members one level further in, and the brace
    that closes it. -/
def ClassDecl.IsBlock (level : Nat) (c : ClassDecl) (block : List Text) : Prop :=
  ∃ body, block = [margin level ++ c.openingText] ++ body ++ [margin level ++ "\x7d"] ∧
    Inside (level + 1) body

theorem ClassDecl.adds_commands {c : ClassDecl} (h : IsLine c.openingText) (level : Nat)
    (s : Sheet) : ∃ block s', s.Adds (c.commands level) block s' ∧ c.IsBlock s.level block := by
  have hwrites : Writes (c.members.flatMap (Member.commands (level + 1)))
      (c.members.flatMap (·.forms.1)) :=
    Writes.flatMap fun m _ => m.writes_commands_succ level
  obtain ⟨body, mid, hbody, hinside⟩ := hwrites.adds ((s.about c.file).emit c.openingText).indent
  have hblock := (s.adds_sourceFile c.file).trans (hbody.block h)
  have hclosed := hblock.trans (Sheet.adds_emit (t := "\x7d") (by decide) _)
  have hcommands : c.commands level = [.sourceFile c.file] ++ ([.emit c.openingText] ++
      ([.indent] ++ c.members.flatMap (Member.commands (level + 1)) ++ [.dedent])) ++
      [.emit "\x7d"] := by
    simp [ClassDecl.commands]
  rw [← hcommands] at hclosed
  exact ⟨_, _, hclosed, body, rfl, hinside⟩

theorem adds_classes {classes : List ClassDecl} (h : ∀ c ∈ classes, IsLine c.openingText)
    (level : Nat) (s : Sheet) :
    ∃ blocks s', s.Adds (classes.flatMap (ClassDecl.commands level)) blocks.flatten s' ∧
      List.Forall₂ (ClassDecl.IsBlock s.level) classes blocks := by
  induction classes generalizing s with
  | nil => exact ⟨[], s, ⟨rfl, rfl, (List.append_nil _).symm⟩, .nil⟩
  | cons c rest ih =>
    rw [List.forall_mem_cons] at h
    obtain ⟨block, mid, hblock, hc⟩ := c.adds_commands h.1 level s
    obtain ⟨blocks, s', hblocks, hrest⟩ := ih h.2 mid
    rw [hblock.level] at hrest
    exact ⟨block :: blocks, s', hblock.trans hblocks, .cons hc hrest⟩

namespace Model

section Plain

variable {m : Model} (h : ∀ t ∈ m.texts, CodePoint.scalar '\n' ∉ t)

include h

theorem adds_moduleCommands (level : Nat) (s : Sheet) :
    ∃ body blocks s',
      s.Adds (m.moduleCommands level)
        ([margin s.level ++ ("declare class " ++ m.rootName ++ " \x7b")] ++ body ++
          [margin s.level ++ "\x7d", [],
            margin s.level ++ ("declare namespace " ++ m.rootName ++ " \x7b")] ++
          blocks.flatten ++ [margin s.level ++ "\x7d", []]) s' ∧
      Inside (s.level + 1) body ∧
      List.Forall₂ (ClassDecl.IsBlock (s.level + 1)) m.classes blocks := by
  have hbrace : IsLine ("\x7d" : Text) := by decide
  have hroot : Writes (m.aliases.flatMap (AliasBlock.commands (level + 1))) m.rootLines :=
    Writes.flatMap fun b _ => b.writes_commands (Member.writes_commands_succ level)
  obtain ⟨body, inner, hbody, hinside⟩ :=
    hroot.adds (s.emit ("declare class " ++ m.rootName ++ " \x7b")).indent
  have hclass := (hbody.block (isLine_rootOpening h _ (by decide))).trans
    (Sheet.adds_emit_lineFeed hbrace _)
  -- of the sheet that the class leaves only its level counts for the namespace
  obtain ⟨mid, hmid⟩ : ∃ mid, s.Adds _ _ mid := ⟨_, hclass⟩
  have hopenings : ∀ c ∈ m.classes, IsLine c.openingText := fun c hc =>
    c.isLine_openingText (notMem_texts_class h hc)
  obtain ⟨blocks, inner', hblocks, hall⟩ := adds_classes hopenings (level + 1)
    (mid.emit ("declare namespace " ++ m.rootName ++ " \x7b")).indent
  have hnamespace := (hblocks.block (isLine_rootOpening h _ (by decide))).trans
    (Sheet.adds_emit_lineFeed hbrace _)
  have hlevel : mid.level = s.level := hmid.level
  obtain ⟨s', hboth⟩ : ∃ s', s.Adds _ _ s' := ⟨_, hmid.trans hnamespace⟩
  simp only [hlevel] at hboth
  refine ⟨body, blocks, s', ?_, hinside, ?_⟩
  · simpa [moduleCommands, Text.ofString] using hboth
  · rw [← hlevel]
    exact hall

theorem adds_globalCommands (s : Sheet) :
    ∃ first added s', s.Adds (m.globalCommands 0) (first :: added) s' := by
  obtain ⟨reference, hline, hcut⟩ := exists_reference h
  have hroot : Writes (m.aliases.flatMap (AliasBlock.commands 0)) m.globalLines :=
    Writes.flatMap fun b _ => b.writes_commands Member.writes_commands_zero
  have hfirst := Sheet.adds_emit_lineFeed hline s
  rw [← hcut] at hfirst
  obtain ⟨added, s', hadded, -⟩ :=
    (hroot.append (writes_constantCommands m.constants)).adds ((s.emit reference).emit [])
  exact ⟨_, [] :: added, s', hfirst.trans hadded⟩

end Plain

/-- A model with a method that has objections in front of a block, a description of several lines,
    and a constant type. -/
def penModel : Model :=
  ⟨"p5",
    [⟨"p5", [.method ⟨"3d", ["x: number"], "void", false, false, [], "src/pen.js", some 4,
        ["\"3d\" is not a valid JS symbol name"]⟩]⟩,
      ⟨"Pen", [.unsupported ⟨"moved", "event", "src/pen.js"⟩,
        .property ⟨"DASH", "string", some "'dash'", true, "A style.", "src/pen.js", true⟩]⟩],
    [⟨"p5.Ink", "Ink", some "p5", "src/ink.js",
      [.method ⟨"mix", [], "Ink", false, true, "Mixes.\n\n<b>Twice</b>", "src/ink.js", none, []⟩]⟩],
    Table.ofList [("STYLE", ["DASH", "DOT"])], .empty⟩

example :
    ((renderModule { penModel with aliases := [] } .blank).toOption.map fun s =>
        s.lines.toList) = some ([
      "declare class p5 \x7b", "\x7d", "", "declare namespace p5 \x7b",
      "    class Ink extends p5 \x7b", "        /**", "         * Mixes.", "         *",
      "         * Twice", "         */", "        static mix(): Ink;", "    \x7d", "\x7d", ""] :
        List Text) := by
  decide +kernel

end Model

end Ambient
