/-
  Ambient/Proofs/SheetContents.lean
  =================================
  **What commands write on a sheet.**

  A sheet is only ever added to, and what commands add depends on the sheet in two ways: on its
  level, which is put in front of each line, and on its last line, which decides whether a section
  break adds an empty one.  Empty lines apart, commands therefore write the same lines on every
  sheet, further in or further out (`Writes`).  The lines of several commands are those of each,
  one after the other (`Writes.append`, `Writes.flatMap`), and those of commands between an indent
  and a dedent have one more indentation (`Writes.nested`).  In particular such commands never
  fail.

  What is written can be read off the text of the sheet again: its lines that are not empty are
  the ones that were written (`filledLines_text`).
-/
import Ambient.Render.Sheet
import Ambient.Proofs.TypeNotation

namespace Ambient

namespace Text

/-! ### Lines that are not empty -/

/-- The lines of a text that are not empty. -/
def filledLines (t : Text) : List Text := (split '\n' t).filter fun line => !line.isEmpty

theorem split_append_cons (sep : CodePoint) (t u : Text) :
    split sep (t ++ sep :: u) = split sep t ++ split sep u := by
  induction t with
  | nil => simp [split]
  | cons c t ih =>
    rw [List.cons_append, split, split, ih]
    split
    · rfl
    · obtain ⟨first, more, h⟩ := List.exists_cons_of_ne_nil (split_ne_nil sep t)
      rw [h]
      rfl

theorem split_of_notMem {sep : CodePoint} {t : Text} (h : sep ∉ t) : split sep t = [t] := by
  induction t with
  | nil => rfl
  | cons c t ih =>
    rw [List.mem_cons, not_or] at h
    rw [split, if_neg (Ne.symm h.1), ih h.2]
    rfl

theorem filledLines_append_cons (t u : Text) :
    filledLines (t ++ .scalar '\n' :: u) = filledLines t ++ filledLines u := by
  rw [filledLines, split_append_cons, List.filter_append]
  rfl

theorem filledLines_of_notMem {t : Text} (h : CodePoint.scalar '\n' ∉ t) :
    filledLines t = [t].filter fun line => !line.isEmpty := by
  rw [filledLines, split_of_notMem h]

theorem filledLines_of_line {t : Text} (h : CodePoint.scalar '\n' ∉ t) (hne : t ≠ []) :
    filledLines t = [t] := by
  rw [filledLines_of_notMem h, List.filter_cons_of_pos (by simp [hne]), List.filter_nil]

/-- A text of joined lines has them as its lines. -/
theorem filledLines_join {lines : List Text} (h : ∀ line ∈ lines, CodePoint.scalar '\n' ∉ line) :
    filledLines (join "\n" lines ++ "\n") = lines.filter fun line => !line.isEmpty := by
  match lines with
  | [] => rfl
  | [line] =>
    have hend : (join "\n" [line] ++ "\n" : Text) = line ++ .scalar '\n' :: [] := rfl
    rw [hend, filledLines_append_cons, filledLines_of_notMem (h line List.mem_cons_self)]
    exact List.append_nil _
  | first :: second :: rest =>
    rw [List.forall_mem_cons] at h
    have hcut : (join "\n" (first :: second :: rest) ++ "\n" : Text) =
        first ++ .scalar '\n' :: (join "\n" (second :: rest) ++ ("\n" : Text)) := by
      rw [join, List.append_assoc, List.append_assoc]
      rfl
    rw [hcut, filledLines_append_cons, filledLines_of_notMem h.1, filledLines_join h.2,
      ← List.filter_append]
    rfl

theorem notMem_trimEnd {c : CodePoint} {t : Text} (h : c ∉ t) : c ∉ trimEnd t := by
  obtain ⟨z, -, hcut⟩ := exists_blanks t
  rw [hcut, List.mem_append, not_or] at h
  exact h.1

end Text

namespace Sheet

/-! ### Sheets that grow -/

/-- A sheet with some lines written on it at its level, up to empty lines. -/
structure Grows (s : Sheet) (lines : List Text) (s' : Sheet) : Prop where
  level : s'.level = s.level
  added : ∃ added, s'.lines.toList = s.lines.toList ++ added ∧
    (∀ line ∈ added, CodePoint.scalar '\n' ∉ line) ∧
    (added.filter fun line => !line.isEmpty) = lines.map (margin s.level ++ ·)

theorem Grows.trans {s mid s' : Sheet} {lines more : List Text} (h : s.Grows lines mid)
    (h' : mid.Grows more s') : s.Grows (lines ++ more) s' := by
  obtain ⟨hlevel, added, hlines, hplain, hadded⟩ := h
  obtain ⟨hlevel', added', hlines', hplain', hadded'⟩ := h'
  refine ⟨hlevel'.trans hlevel, added ++ added', ?_, ?_, ?_⟩
  · rw [hlines', hlines, List.append_assoc]
  · rw [List.forall_mem_append]
    exact ⟨hplain, hplain'⟩
  · rw [List.filter_append, hadded, hadded', hlevel, List.map_append]

theorem grows_self (s : Sheet) : s.Grows [] s :=
  ⟨rfl, [], (List.append_nil _).symm, by simp, rfl⟩

theorem notMem_margin (level : Nat) : CodePoint.scalar '\n' ∉ margin level := by
  intro h
  obtain ⟨l, hl, hmem⟩ := List.mem_flatten.1 h
  rw [List.eq_of_mem_replicate hl] at hmem
  exact absurd hmem (by decide)

theorem margin_succ (level : Nat) : margin (level + 1) = margin level ++ indentation := by
  simp [margin, List.replicate_succ']

theorem notMem_indented {level : Nat} {line : Text} (h : CodePoint.scalar '\n' ∉ line) :
    CodePoint.scalar '\n' ∉ indented level line := by
  unfold indented
  split
  · exact List.not_mem_nil
  · exact Text.notMem_append (notMem_margin level) h

theorem filter_indented (level : Nat) (lines : List Text) :
    ((lines.map (indented level)).filter fun line => !line.isEmpty) =
      (lines.filter fun line => !line.isEmpty).map (margin level ++ ·) := by
  induction lines with
  | nil => rfl
  | cons line rest ih =>
    cases line with
    | nil => simpa [indented] using ih
    | cons c line =>
      have hne : (indented level (c :: line)).isEmpty = false := by simp [indented]
      rw [List.map_cons, List.filter_cons_of_pos (by simp [hne]), ih,
        List.filter_cons_of_pos (by simp), List.map_cons]
      rfl

theorem grows_emit (s : Sheet) (text : Text) : s.Grows (Text.filledLines text) (s.emit text) := by
  refine ⟨rfl, (Text.split '\n' text).map (indented s.level), ?_, ?_, ?_⟩
  · simp [emit]
  · intro line hline
    obtain ⟨piece, hpiece, rfl⟩ := List.mem_map.1 hline
    exact notMem_indented (Text.not_mem_of_mem_split hpiece)
  · exact filter_indented s.level _

theorem grows_sectionBreak (s : Sheet) : s.Grows [] s.sectionBreak := by
  unfold sectionBreak
  split
  · exact s.grows_self
  · split
    · exact s.grows_self
    · exact ⟨rfl, [[]], by simp, by simp, rfl⟩

theorem grows_about (s : Sheet) (file : Text) : s.Grows [] (s.about file) :=
  ⟨rfl, [], (List.append_nil _).symm, by simp, rfl⟩

/-- A run that ends on the level of the indent in front of it can be closed by a dedent. -/
theorem run_nested {s s' : Sheet} {commands : List Command} (hrun : s.indent.run commands = .ok s')
    (hlevel : s'.level = s.level + 1) :
    s.run ([.indent] ++ commands ++ [.dedent]) = .ok { s' with level := s.level } := by
  rw [run_append, run_append]
  change ((s.indent.run commands).bind fun s => s.run [.dedent]) = _
  rw [hrun]
  change s'.run [.dedent] = _
  simp only [run, apply, dedent, hlevel]

/-! ### Descriptions -/

def commentLines (text : Text) : List Text :=
  match descriptionLines text with
  | [] => []
  | lines => [("/**" : Text)] ++ lines.map commentLine ++ [(" */" : Text)]

theorem notMem_of_mem_descriptionLines {text line : Text}
    (h : line ∈ descriptionLines text) : CodePoint.scalar '\n' ∉ line := by
  obtain ⟨whole, hwhole, rfl⟩ := List.mem_map.1 h
  apply Text.notMem_trimEnd
  intro hmem
  exact absurd (Text.isLineEnd_of_mem_lines hwhole hmem) (by decide)

/-- A line of a comment is one line, and no empty one: it has its star. -/
theorem filledLines_commentLine {line : Text} (h : CodePoint.scalar '\n' ∉ line) :
    Text.filledLines (commentLine line) = [commentLine line] := by
  have hstar : (" * " ++ line : Text) = .scalar ' ' :: .scalar '*' :: .scalar ' ' :: line := rfl
  apply Text.filledLines_of_line
  · apply Text.notMem_trimEnd
    rw [hstar]
    simp [h]
  · intro hnil
    obtain ⟨z, hblank, hcut⟩ := Text.exists_blanks (" * " ++ line : Text)
    rw [show Text.trimEnd (" * " ++ line) = [] from hnil, List.nil_append, hstar] at hcut
    have hmem : CodePoint.scalar '*' ∈ z := by simp [← hcut]
    exact absurd (hblank _ hmem) (by decide)

theorem grows_emits {f : Text → Text} {lines : List Text}
    (h : ∀ line ∈ lines, Text.filledLines (f line) = [f line]) (s : Sheet) :
    s.Grows (lines.map f) (lines.foldl (fun s line => s.emit (f line)) s) := by
  induction lines generalizing s with
  | nil => exact s.grows_self
  | cons line rest ih =>
    rw [List.forall_mem_cons] at h
    have hfirst : s.Grows [f line] (s.emit (f line)) := h.1 ▸ s.grows_emit (f line)
    exact hfirst.trans (ih h.2 (s.emit (f line)))

theorem grows_description (s : Sheet) (text : Text) :
    s.Grows (commentLines text) (s.description text) := by
  have hlines : ∀ line ∈ descriptionLines text,
      Text.filledLines (commentLine line) = [commentLine line] := by
    intro line hline
    exact filledLines_commentLine (notMem_of_mem_descriptionLines hline)
  unfold commentLines description
  cases h : descriptionLines text with
  | nil => exact s.grows_self
  | cons line rest =>
    rw [h] at hlines
    have hopen : s.Grows [("/**" : Text)] (s.emit "/**") := s.grows_emit "/**"
    have hclose (mid : Sheet) : mid.Grows [(" */" : Text)] (mid.emit " */") :=
      mid.grows_emit " */"
    exact (hopen.trans (grows_emits hlines _)).trans (hclose _)

/-! ### Reading a sheet -/

/-- The lines of a sheet that grew from the blank one can be read off its text. -/
theorem filledLines_text {s : Sheet} {lines : List Text} (h : blank.Grows lines s) :
    Text.filledLines s.text = lines := by
  obtain ⟨-, added, hlines, hplain, hadded⟩ := h
  have hall : s.lines.toList = added := hlines
  rw [text, hall, Text.filledLines_join hplain, hadded]
  exact List.map_id lines

end Sheet

/-! ### Commands -/

/-- Commands that write some lines on any sheet, up to empty ones, and leave its level. -/
def Writes (commands : List Command) (lines : List Text) : Prop :=
  ∀ s : Sheet, ∃ s', s.run commands = .ok s' ∧ s.Grows lines s'

namespace Writes

open Text (filledLines)

theorem nil : Writes [] [] := fun s => ⟨s, rfl, s.grows_self⟩

theorem append {commands more : List Command} {lines others : List Text}
    (h : Writes commands lines) (h' : Writes more others) :
    Writes (commands ++ more) (lines ++ others) := by
  intro s
  obtain ⟨mid, hrun, hgrows⟩ := h s
  obtain ⟨s', hrun', hgrows'⟩ := h' mid
  refine ⟨s', ?_, hgrows.trans hgrows'⟩
  rw [Sheet.run_append, hrun]
  exact hrun'

/-- Commands that write nothing, but perhaps an empty line, can follow. -/
theorem append_silent {commands more : List Command} {lines : List Text}
    (h : Writes commands lines) (h' : Writes more []) : Writes (commands ++ more) lines := by
  simpa using h.append h'

theorem flatMap {α : Type} {f : α → List Command} {g : α → List Text} {items : List α}
    (h : ∀ item ∈ items, Writes (f item) (g item)) :
    Writes (items.flatMap f) (items.flatMap g) := by
  induction items with
  | nil => exact nil
  | cons item rest ih =>
    rw [List.forall_mem_cons] at h
    rw [List.flatMap_cons, List.flatMap_cons]
    exact h.1.append (ih h.2)

/-- Commands between an indent and a dedent write their lines one indentation further in. -/
theorem nested {commands : List Command} {lines : List Text} (h : Writes commands lines) :
    Writes ([.indent] ++ commands ++ [.dedent]) (lines.map (Sheet.indentation ++ ·)) := by
  intro s
  -- the commands end on the level of the indent, so the dedent cannot go below the margin
  obtain ⟨s', hrun, hlevel, added, hlines, hplain, hadded⟩ := h s.indent
  refine ⟨{ s' with level := s.level }, Sheet.run_nested hrun hlevel, rfl, added, hlines, hplain,
    ?_⟩
  rw [hadded, List.map_map]
  apply List.map_congr_left
  intro line _
  change Sheet.margin (s.level + 1) ++ line = _
  rw [Sheet.margin_succ, List.append_assoc]
  rfl

theorem emit (text : Text) : Writes [.emit text] (filledLines text) :=
  fun s => ⟨s.emit text, rfl, s.grows_emit text⟩

theorem emits {α : Type} (f : α → Text) (items : List α) :
    Writes (items.map fun item => .emit (f item))
      (items.flatMap fun item => filledLines (f item)) := by
  rw [List.map_eq_flatMap]
  exact flatMap fun item _ => emit (f item)

theorem sectionBreak : Writes [.sectionBreak] [] :=
  fun s => ⟨s.sectionBreak, rfl, s.grows_sectionBreak⟩

theorem sourceFile (file : Text) : Writes [.sourceFile file] [] :=
  fun s => ⟨s.about file, rfl, s.grows_about file⟩

theorem description (text : Text) : Writes [.description text] (Sheet.commentLines text) :=
  fun s => ⟨s.description text, rfl, s.grows_description text⟩

end Writes

end Ambient
