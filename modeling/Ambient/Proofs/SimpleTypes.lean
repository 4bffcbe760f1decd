/-
  Ambient/Proofs/SimpleTypes.lean
  ===============================
  **Which texts are words.**

  A documented type is taken apart in a fixed order: blanks at its ends, the mark of an array, the
  bars of a union, and the parentheses of a function.  A word is what none of these tests applies
  to, so every word that stands anywhere in a type has the same shape (`IsSimple`,
  `isSimple_of_mem_words`): it is not empty and has no blank at its ends, it is no text with the
  mark of an array behind it, it has no bar outside parentheses, and it is no function.  A text of
  this shape is read as itself (`parse_eq_word_iff`).

  Whether a bar stands outside parentheses is told by the depth behind the text in front of it
  (`depthBehind`); a text is cut at the bars at depth zero, and nowhere else
  (`two_le_length_splitTop_iff`).
-/
import Ambient.Proofs.TopLevelParts
import Ambient.Proofs.Translation

namespace Ambient

namespace DocType

/-! ### Words -/

/-- A text to which no test for a compound type applies. -/
structure IsSimple (t : Text) : Prop where
  ne_nil : t ≠ []
  trim : t.trim = t
  noArray : ¬ (2 < t.length ∧ arrayMark <:+ t)
  noBar : ∀ before after, t = before ++ .scalar '|' :: after → depthBehind 0 before ≠ 0
  noFunction : argumentText? t = none

theorem isArrayText_iff {t : Text} : isArrayText t = true ↔ 2 < t.length ∧ arrayMark <:+ t := by
  simp [isArrayText, List.isSuffixOf_iff_suffix]

/-- A text is read as a word exactly if it is one, blanks at its ends apart. -/
theorem parse_eq_word_iff {t name : Text} :
    parse t = word name ↔ t.trim = name ∧ IsSimple name := by
  have hbar : 2 ≤ (splitTop '|' t.trim).length ↔
      ∃ before after, t.trim = before ++ .scalar '|' :: after ∧ depthBehind 0 before = 0 :=
    two_le_length_splitTop_iff (by decide) (by decide) t.trim
  rw [parse_eq]
  constructor
  · intro h
    -- a word is what is left when every other reading has been refused
    split at h
    · cases h
    · next hne =>
      split at h
      · cases h
      · next harray =>
        split at h
        · cases h
        · next hone =>
          split at h
          · cases h
          · next hfunction =>
            obtain rfl := word.inj h
            refine ⟨rfl, ?_, Text.trim_trim t, mt isArrayText_iff.2 harray, ?_, hfunction⟩
            · simpa using hne
            · intro before after hcut hzero
              exact hone (hbar.2 ⟨before, after, hcut, hzero⟩)
  · rintro ⟨rfl, hsimple⟩
    have hone : ¬ 2 ≤ (splitTop '|' t.trim).length := by
      intro hmany
      obtain ⟨before, after, hcut, hzero⟩ := hbar.1 hmany
      exact hsimple.noBar before after hcut hzero
    rw [if_neg (by simpa using hsimple.ne_nil), if_neg (mt isArrayText_iff.1 hsimple.noArray),
      if_neg hone]
    simp only [hsimple.noFunction]

theorem mem_wordsOfAll_iff {name : Text} {ts : List DocType} :
    name ∈ wordsOfAll ts ↔ ∃ t ∈ ts, name ∈ t.words := by
  induction ts with
  | nil => simp [wordsOfAll]
  | cons t rest ih => simp [wordsOfAll, ih]

/-- A text that is no word is read from shorter texts. -/
theorem parse_cases (t : Text) :
    parse t = blank ∨ (∃ name, parse t = word name) ∨
      (∃ e : Text, e.length < t.length ∧ parse t = array (parse e)) ∨
      ∃ parts : List Text, (∀ part ∈ parts, part.length < t.length) ∧
        (parse t = union (parts.map parse) ∨ parse t = function (parts.map parse)) := by
  have htrim := Text.length_trim_le t
  rw [parse_eq]
  split
  · exact .inl rfl
  · split
    · next harray =>
      exact .inr (.inr (.inl
        ⟨_, Nat.lt_of_lt_of_le (length_elementText_lt harray) htrim, rfl⟩))
    · split
      · next hmany =>
        refine .inr (.inr (.inr ⟨_, ?_, .inl rfl⟩))
        intro part hpart
        exact Nat.lt_of_lt_of_le (length_lt_of_mem_splitTop hpart hmany) htrim
      · split
        · next inner hfunction =>
          refine .inr (.inr (.inr ⟨_, ?_, .inr rfl⟩))
          intro part hpart
          have hinner := length_le_of_mem_splitTop (List.mem_filter.1 hpart).1
          have hwhole := length_lt_of_argumentText? hfunction
          omega
        · exact .inr (.inl ⟨_, rfl⟩)

/-- **Every word of a documented type is simple**, however deep in the type it stands. -/
theorem isSimple_of_mem_words {t name : Text} (h : name ∈ (parse t).words) : IsSimple name := by
  -- on the length, as the parts of a type are texts of their own, which are read again
  induction hlength : t.length using Nat.strongRecOn generalizing t with
  | ind length ih =>
    subst hlength
    rcases parse_cases t with hblank | ⟨other, hword⟩ | ⟨e, hshorter, harray⟩ |
      ⟨parts, hshorter, hparts⟩
    · rw [hblank] at h
      exact nomatch h
    · rw [hword] at h
      obtain rfl := List.mem_singleton.1 h
      exact (parse_eq_word_iff.1 hword).2
    · rw [harray] at h
      exact ih _ hshorter h rfl
    · have hmem : name ∈ wordsOfAll (parts.map parse) := by
        rcases hparts with hunion | hfunction
        · rwa [hunion] at h
        · rwa [hfunction] at h
      obtain ⟨member, hmember, hname⟩ := mem_wordsOfAll_iff.1 hmem
      obtain ⟨part, hpart, rfl⟩ := List.mem_map.1 hmember
      exact ih _ (hshorter part hpart) hname rfl

end DocType

end Ambient
