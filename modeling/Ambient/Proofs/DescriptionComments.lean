/-
  Ambient/Proofs/DescriptionComments.lean
  =======================================
  **Where the comment of a description ends.**

  A description is written between a line that opens a comment and one that closes it.  Whether
  the comment ends there depends on the text in between: tags are dropped from it, but nothing is
  done about the two signs that close a comment.  Since neither of them is a blank or ends a line,
  they stand next to each other in the written lines exactly if they do in the text without its
  tags (`mentions_join_commentLines`); cutting the text into lines, trimming these, and the stars
  in front of them never bring the two signs together, and dropping a tag can.
-/
import Ambient.Proofs.SheetLayout

namespace Ambient

namespace Text

/-! ### Parts without blanks -/

section Solid

variable {part : Text} (hne : part ≠ []) (hsolid : ∀ c ∈ part, c.isBlank = false)

include hsolid in
theorem notMem_of_isBlank {c : CodePoint} (h : c.isBlank = true) : c ∉ part :=
  fun hc => nomatch h.symm.trans (hsolid c hc)

include hne hsolid

theorem mentions_trimStart (t : Text) : mentions part (trimStart t) = mentions part t := by
  have hcut : t.takeWhile CodePoint.isBlank ++ trimStart t = t :=
    List.takeWhile_append_dropWhile
  have hblank : ∀ c ∈ t.takeWhile CodePoint.isBlank, c ∉ part := fun c hc =>
    notMem_of_isBlank hsolid (List.all_eq_true.1 List.all_takeWhile c hc)
  rw [← mentions_forall_notMem_append hne hblank (trimStart t), hcut]

theorem mentions_trimEnd (t : Text) : mentions part (trimEnd t) = mentions part t := by
  obtain ⟨z, hz, hcut⟩ := exists_blanks t
  have hblank : ∀ c ∈ z, c ∉ part := fun c hc => notMem_of_isBlank hsolid (hz c hc)
  rw [← mentions_append_of_forall_notMem hne (trimEnd t) hblank, ← hcut]

theorem mentions_trim (t : Text) : mentions part (trim t) = mentions part t := by
  rw [trim, mentions_trimEnd hne hsolid, mentions_trimStart hne hsolid]

end Solid

/-- A part without line ends occurs in a text where it occurs in one of its lines. -/
theorem any_mentions_lines {part : Text} (hne : part ≠ [])
    (hends : ∀ c ∈ part, c.isLineEnd = false) (t : Text) :
    (lines t).any (mentions part) = mentions part t := by
  have hnotMem : ∀ c : CodePoint, c.isLineEnd = true → c ∉ part := fun c h hc =>
    nomatch h.symm.trans (hends c hc)
  generalize hlines : lines t = all
  induction all generalizing t with
  | nil =>
    obtain rfl := lines_eq_nil_iff.1 hlines
    exact (mentions_nil hne).symm
  | cons first more ih =>
    obtain ⟨ending, rest, rfl, hmore, hending, hlast⟩ := exists_ending_of_lines hlines
    rw [List.any_cons, ih rest hmore]
    cases ending with
    | nil =>
      obtain rfl := hlast rfl
      rw [mentions_nil hne, Bool.or_false, List.append_nil, List.append_nil]
    | cons c ending =>
      -- one line end cuts the text; a second one, behind a carriage return, adds nothing
      rw [List.forall_mem_cons] at hending
      have hcut : first ++ c :: ending ++ rest = first ++ c :: (ending ++ rest) := by simp
      have hskip : ∀ d ∈ ending, d ∉ part := fun d hd => hnotMem d (hending.2 d hd)
      rw [hcut, mentions_append_cons (hnotMem c hending.1),
        mentions_forall_notMem_append hne hskip]

/-! ### The end of a comment -/

def commentEnd : Text := "*/"

/-- Whether a comment is closed at the end of a text, and nowhere in front of it. -/
structure ClosesComment (t : Text) : Prop where
  atEnd : commentEnd <:+ t
  only : ∀ before after, t = before ++ commentEnd ++ after → after = []

theorem commentEnd_ne_nil : commentEnd ≠ [] := by decide

theorem isBlank_of_mem_commentEnd : ∀ c ∈ commentEnd, c.isBlank = false := by decide

theorem isLineEnd_of_mem_commentEnd : ∀ c ∈ commentEnd, c.isLineEnd = false := by decide

/-- Closing a text closes it at its end only if it was not closed before. -/
theorem closesComment_concat_iff {t : Text} :
    ClosesComment (t ++ " */") ↔ mentions commentEnd t = false := by
  constructor
  · intro h
    rw [← Bool.not_eq_true, mentions_iff]
    rintro ⟨before, after, rfl⟩
    have hnil := h.only before (after ++ (" */" : Text)) (List.append_assoc _ _ _)
    exact absurd (List.append_eq_nil_iff.1 hnil).2 (by decide)
  · intro h
    refine ⟨⟨t ++ (" " : Text), ?_⟩, ?_⟩
    · rw [List.append_assoc]
      rfl
    · intro before after hcut
      -- of a sign behind the first end, the last one would be the end of the whole text
      by_contra hafter
      have hfront : (t ++ " */" : Text).dropLast = t ++ .scalar ' ' :: ("*" : Text) := by
        rw [show (t ++ " */" : Text) = t ++ .scalar ' ' :: ("*" : Text) ++ ("/" : Text) by
          rw [List.append_assoc]
          rfl]
        exact List.dropLast_concat
      have hmentions : mentions commentEnd (t ++ .scalar ' ' :: ("*" : Text)) = true := by
        rw [mentions_iff]
        exact ⟨before, after.dropLast, by
          rw [← hfront, hcut, List.dropLast_append_of_ne_nil hafter]⟩
      rw [mentions_append_cons (by decide), h] at hmentions
      exact absurd hmentions (by decide)

end Text

namespace Sheet

open Text (IsLine mentions commentEnd commentEnd_ne_nil isBlank_of_mem_commentEnd)

theorem isBlank_of_mem_margin {level : Nat} {c : CodePoint} (h : c ∈ margin level) :
    c.isBlank = true := by
  obtain ⟨l, hl, hmem⟩ := List.mem_flatten.1 h
  rw [List.eq_of_mem_replicate hl] at hmem
  have hall : ∀ c ∈ indentation, c.isBlank = true := by decide
  exact hall c hmem

theorem mentions_margin_append (level : Nat) (t : Text) :
    mentions commentEnd (margin level ++ t) = mentions commentEnd t :=
  Text.mentions_forall_notMem_append commentEnd_ne_nil
    (fun _ hc => Text.notMem_of_isBlank isBlank_of_mem_commentEnd (isBlank_of_mem_margin hc)) t

/-! ### The lines of a comment -/

theorem mentions_commentLine (line : Text) :
    mentions commentEnd (commentLine line) = mentions commentEnd line := by
  have hmark : (" * " ++ line : Text) = (" *" : Text) ++ .scalar ' ' :: line := rfl
  rw [commentLine, Text.mentions_trimEnd commentEnd_ne_nil isBlank_of_mem_commentEnd, hmark,
    Text.mentions_append_cons (by decide)]
  rfl

theorem any_mentions_descriptionLines (text : Text) :
    (descriptionLines text).any (mentions commentEnd) =
      mentions commentEnd (Text.stripTags text) := by
  have htrimmed : mentions commentEnd ∘ Text.trimEnd = mentions commentEnd := funext fun line =>
    Text.mentions_trimEnd commentEnd_ne_nil isBlank_of_mem_commentEnd line
  rw [descriptionLines, List.any_map, htrimmed,
    Text.any_mentions_lines commentEnd_ne_nil Text.isLineEnd_of_mem_commentEnd,
    Text.mentions_trim commentEnd_ne_nil isBlank_of_mem_commentEnd]

/-- What stands in a comment in front of its last line closes it only if the described text, without
    its tags, does. -/
theorem mentions_join_commentLines (level : Nat) (text : Text) :
    mentions commentEnd (Text.join "\n" ((margin level ++ ("/**" : Text)) ::
        (descriptionLines text).map fun line => margin level ++ commentLine line)) =
      mentions commentEnd (Text.stripTags text) := by
  have hlines : (fun line => mentions commentEnd (margin level ++ commentLine line)) =
      mentions commentEnd := funext fun line => by
    rw [mentions_margin_append, mentions_commentLine]
  have hopen : mentions commentEnd (margin level ++ ("/**" : Text)) = false := by
    rw [mentions_margin_append]
    decide
  have hjoin := Text.mentions_join commentEnd_ne_nil
    (show CodePoint.scalar '\n' ∉ commentEnd by decide)
    ((margin level ++ ("/**" : Text)) ::
      (descriptionLines text).map fun line => margin level ++ commentLine line)
  refine hjoin.trans ?_
  rw [List.any_cons, hopen, Bool.false_or, List.any_map, Function.comp_def, hlines,
    any_mentions_descriptionLines]

/-! ### The comment on a sheet -/

theorem emit_line {t : Text} (h : IsLine t) (s : Sheet) :
    (s.emit t).lines.toList = s.lines.toList ++ [margin s.level ++ t] := by
  rw [emit_lines h.notMem, indented_of_ne_nil h.ne_nil]

theorem emits_lines {f : Text → Text} {lines : List Text} (h : ∀ line ∈ lines, IsLine (f line))
    (s : Sheet) :
    (lines.foldl (fun s line => s.emit (f line)) s).level = s.level ∧
      (lines.foldl (fun s line => s.emit (f line)) s).lines.toList =
        s.lines.toList ++ lines.map fun line => margin s.level ++ f line := by
  induction lines generalizing s with
  | nil => exact ⟨rfl, (List.append_nil _).symm⟩
  | cons line rest ih =>
    rw [List.forall_mem_cons] at h
    obtain ⟨hlevel, hlines⟩ := ih h.2 (s.emit (f line))
    refine ⟨hlevel, hlines.trans ?_⟩
    rw [emit_line h.1, List.append_assoc]
    rfl

theorem description_of_ne_nil {text : Text} (h : descriptionLines text ≠ []) (s : Sheet) :
    (s.description text).lines.toList = s.lines.toList ++
      ([margin s.level ++ ("/**" : Text)] ++
        ((descriptionLines text).map fun line => margin s.level ++ commentLine line) ++
        [margin s.level ++ (" */" : Text)]) := by
  have hinner : ∀ line ∈ descriptionLines text, IsLine (commentLine line) := fun line hline =>
    Text.isLine_of_filledLines (filledLines_commentLine (notMem_of_mem_descriptionLines hline))
  have hopen : IsLine ("/**" : Text) := by decide
  have hclose : IsLine (" */" : Text) := by decide
  obtain ⟨hlevel, hlines⟩ := emits_lines hinner (s.emit "/**")
  have hwhole : s.description text = ((descriptionLines text).foldl
      (fun s line => s.emit (commentLine line)) (s.emit "/**")).emit " */" := by
    unfold description
    split
    · next hnil => exact absurd hnil h
    · rfl
  rw [hwhole, emit_line hclose, hlevel, hlines, emit_line hopen]
  simp only [List.append_assoc]
  rfl

theorem descriptionLines_eq_nil_iff {text : Text} :
    descriptionLines text = [] ↔ Text.trim (Text.stripTags text) = [] := by
  rw [descriptionLines, List.map_eq_nil_iff, Text.lines_eq_nil_iff]

/-- **The comment of a description.**  On any sheet a description of which something is left without
    its tags and the blanks around it is written as lines that open a comment and close it, and
    any other one is not written.  The end of the last line is the only place where the comment is
    closed exactly if the description without its tags does not hold the end of a comment. -/
theorem description_closes_iff (s : Sheet) (text : Text) :
    ∃ block, (s.description text).lines.toList = s.lines.toList ++ block ∧
      (block = [] ↔ Text.trim (Text.stripTags text) = []) ∧
      (block ≠ [] →
        (∃ inner, block = [margin s.level ++ ("/**" : Text)] ++ inner ++
          [margin s.level ++ (" */" : Text)]) ∧
        (Text.ClosesComment (Text.join "\n" block) ↔
          mentions commentEnd (Text.stripTags text) = false)) := by
  rw [← descriptionLines_eq_nil_iff]
  by_cases hnil : descriptionLines text = []
  · refine ⟨[], ?_, by simp [hnil], fun h => absurd rfl h⟩
    unfold description
    rw [hnil]
    exact (List.append_nil _).symm
  · refine ⟨_, description_of_ne_nil hnil s, by simp [hnil], fun _ => ⟨⟨_, rfl⟩, ?_⟩⟩
    -- the last line closes the comment, so what stands in front of it must not
    have hcut : Text.join "\n" ([margin s.level ++ ("/**" : Text)] ++
          ((descriptionLines text).map fun line => margin s.level ++ commentLine line) ++
          [margin s.level ++ (" */" : Text)]) =
        Text.join "\n" ((margin s.level ++ ("/**" : Text)) ::
          (descriptionLines text).map fun line => margin s.level ++ commentLine line) ++
          .scalar '\n' :: margin s.level ++ " */" := by
      rw [Text.join_concat _ (by simp)]
      simp only [List.append_assoc]
      rfl
    have hmargin : ∀ c ∈ margin s.level, c ∉ commentEnd := fun c hc =>
      Text.notMem_of_isBlank isBlank_of_mem_commentEnd (isBlank_of_mem_margin hc)
    rw [hcut, Text.closesComment_concat_iff,
      Text.mentions_append_of_forall_notMem commentEnd_ne_nil _
        (List.forall_mem_cons.2 ⟨by decide, hmargin⟩),
      mentions_join_commentLines]

example : mentions commentEnd (Text.stripTags "a *<b></b>/ c") = true := by decide +kernel

/-- The end of a comment in a description closes the comment early. -/
theorem description_closed_early :
    (blank.description "a */ b").lines.toList = [("/**" : Text), " * a */ b", " */"] ∧
    ¬ Text.ClosesComment (Text.join "\n" (blank.description "a */ b").lines.toList) := by
  refine ⟨by decide +kernel, fun h => ?_⟩
  have hcut : Text.join "\n" (blank.description "a */ b").lines.toList =
      ("/**\n * a " : Text) ++ commentEnd ++ (" b\n */" : Text) := by decide +kernel
  exact absurd (h.only _ _ hcut) (by decide)

end Sheet

end Ambient
