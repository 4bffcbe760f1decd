/-
  Ambient/Proofs/NameWords.lean
  =============================
  **What the words of a name keep of it.**

  The words of a name are its pieces in lower case, each piece made small on its own.  The lower
  case of a sigma depends on what stands around it, and on how far a look from there reaches: it
  passes some code points over and ends at the first other one.  Where a piece ends there is a
  small letter or a digit of ASCII, and where the next one begins a capital; neither is passed
  over, so no look from within a piece leaves it (`Text.lower_append_of_isWordStart`).  The words
  put together are therefore the lower case of the whole name (`splitWords_lossless`).
-/
import Ambient.Constant.Words
import Ambient.Proofs.Identifiers
import Mathlib.Data.List.Chain

namespace Ambient

/-! ### Looks around a sigma -/

namespace Text

/-- A look ahead ends at a code point that is not passed over. -/
theorem meetsCased_append_cons {c : CodePoint} (hc : c.isCaseIgnored = false) (a b : Text) :
    meetsCased (a ++ c :: b) = meetsCased (a ++ [c]) := by
  induction a with
  | nil => simp [meetsCased, hc]
  | cons d a ih => rw [List.cons_append, meetsCased, ih, List.cons_append, meetsCased]

/-- What stands in front of a code point that is not passed over, and is no sigma, has its lower
    case whatever follows. -/
theorem lowerAfter_append_cons {c : CodePoint} (hc : c.isCaseIgnored = false)
    (hsigma : c ≠ CodePoint.capitalSigma) (before a b : Text) :
    lowerAfter before (a ++ c :: b) =
      lowerAfter before (a ++ [c]) ++ lowerAfter (c :: (a.reverse ++ before)) b := by
  induction a generalizing before with
  | nil => simp [lowerAfter, hsigma]
  | cons d a ih =>
    rw [List.cons_append, lowerAfter, meetsCased_append_cons hc, ih, List.cons_append, lowerAfter]
    simp

/-- What stands behind a code point that is not passed over has its lower case whatever stands in
    front. -/
theorem lowerAfter_append_cons_before {c : CodePoint} (hc : c.isCaseIgnored = false)
    (a before t : Text) : lowerAfter (a ++ c :: before) t = lowerAfter (a ++ [c]) t := by
  induction t generalizing a with
  | nil => rfl
  | cons d t ih =>
    rw [lowerAfter, lowerAfter, meetsCased_append_cons hc, ← List.cons_append, ih,
      List.cons_append]

/-- A text that begins with such a code point has its own lower case wherever it stands. -/
theorem lowerAfter_cons {c : CodePoint} (hc : c.isCaseIgnored = false)
    (hsigma : c ≠ CodePoint.capitalSigma) (before t : Text) :
    lowerAfter before (c :: t) = lower (c :: t) := by
  have hbehind : lowerAfter (c :: before) t = lowerAfter [c] t :=
    lowerAfter_append_cons_before hc [] before t
  simp [lower, lowerAfter, hsigma, hbehind]

end Text

/-! ### Where words begin -/

/-- Whether a new word begins between two neighbours in a name: a small letter or a digit of ASCII
    stands in front, and a capital behind. -/
def CodePoint.BeginsWord (before after : CodePoint) : Prop :=
  (0x61 ≤ before.code ∧ before.code ≤ 0x7A ∨ 0x30 ≤ before.code ∧ before.code ≤ 0x39) ∧
    0x41 ≤ after.code ∧ after.code ≤ 0x5A

instance (before after : CodePoint) : Decidable (before.BeginsWord after) :=
  inferInstanceAs (Decidable (_ ∧ _))

theorem isWordStart_iff {before after : CodePoint} :
    isWordStart before after = true ↔ before.BeginsWord after := by
  rw [isWordStart, Bool.and_eq_true, Bool.or_eq_true, CodePoint.isAsciiLower_iff,
    CodePoint.isAsciiDigit_iff, CodePoint.isAsciiUpper_iff]
  rfl

/-- Letters and digits of ASCII are not passed over, and none is a sigma. -/
theorem CodePoint.not_ignored_of_alphanumeric {c : CodePoint}
    (h : 0x61 ≤ c.code ∧ c.code ≤ 0x7A ∨ 0x30 ≤ c.code ∧ c.code ≤ 0x39 ∨
      0x41 ≤ c.code ∧ c.code ≤ 0x5A) :
    c.isCaseIgnored = false ∧ c ≠ capitalSigma := by
  have hspans : ∀ s ∈ ignoredSpans, s.last < 0x30 ∨ 0x39 < s.first ∧ s.last < 0x41 ∨
      0x5A < s.first ∧ s.last < 0x61 ∨ 0x7A < s.first := by decide +kernel
  refine ⟨?_, ?_⟩
  · rw [isCaseIgnored, Span.anyHolds, List.any_eq_false]
    intro s hs
    have hspan := hspans s hs
    simp only [Span.holds, Bool.and_eq_true, decide_eq_true_eq]
    omega
  · rintro rfl
    revert h
    decide

/-- The lower case of a name is made on either side of the begin of a word on its own. -/
theorem Text.lower_append_of_isWordStart {c d : CodePoint} (h : isWordStart c d = true)
    (a b : Text) : lower (a ++ c :: d :: b) = lower (a ++ [c]) ++ lower (d :: b) := by
  obtain ⟨hbefore, hafter⟩ := isWordStart_iff.1 h
  obtain ⟨hc, hcsigma⟩ := CodePoint.not_ignored_of_alphanumeric (c := c) (by omega)
  obtain ⟨hd, hdsigma⟩ := CodePoint.not_ignored_of_alphanumeric (c := d) (by omega)
  change lowerAfter [] _ = _
  rw [lowerAfter_append_cons hc hcsigma, lowerAfter_cons hd hdsigma]
  rfl

/-! ### Pieces -/

/-- Whether a word begins between two pieces that follow each other. -/
def Seam (piece next : Text) : Prop :=
  ∃ init c d rest, piece = init ++ [c] ∧ next = d :: rest ∧ isWordStart c d = true

theorem isChain_camelPieces (name : Text) : (camelPieces name).IsChain Seam := by
  fun_induction camelPieces name with
  | case1 => exact .nil
  | case2 c => exact .singleton [c]
  | case3 c d rest hstart ih =>
    obtain ⟨piece, more, hpieces⟩ := camelPieces_cons d rest
    rw [hpieces] at ih ⊢
    exact ih.cons_cons ⟨[], c, d, piece, rfl, rfl, hstart⟩
  | case4 c d rest hstart ih =>
    obtain ⟨piece, more, hpieces⟩ := camelPieces_cons d rest
    rw [hpieces] at ih ⊢
    cases more with
    | nil => exact .singleton _
    | cons next more =>
      obtain ⟨⟨init, e, f, rest', hinit, hnext, hseam⟩, hchain⟩ := List.isChain_cons_cons.1 ih
      exact hchain.cons_cons ⟨c :: init, e, f, rest', congrArg (c :: ·) hinit, hnext, hseam⟩

/-- The lower case of pieces put together is made of each piece on its own. -/
theorem lower_flatten {pieces : List Text} (h : pieces.IsChain Seam) :
    Text.lower pieces.flatten = (pieces.map Text.lower).flatten := by
  induction pieces with
  | nil => rfl
  | cons piece more ih =>
    cases more with
    | nil => simp
    | cons next more =>
      obtain ⟨⟨init, c, d, rest, rfl, rfl, hstart⟩, hmore⟩ := List.isChain_cons_cons.1 h
      have hcut : ((init ++ [c]) :: (d :: rest) :: more).flatten =
          init ++ c :: d :: (rest ++ more.flatten) := by simp
      rw [hcut, Text.lower_append_of_isWordStart hstart, List.map_cons, List.flatten_cons,
        ← ih hmore]
      rfl

theorem ne_nil_of_mem_camelPieces {name piece : Text} (h : piece ∈ camelPieces name) :
    piece ≠ [] := by
  fun_induction camelPieces name with
  | case1 => cases h
  | case2 c =>
    rw [List.mem_singleton.1 h]
    exact List.cons_ne_nil c []
  | case3 c d rest hstart ih =>
    rcases List.mem_cons.1 h with rfl | hmore
    · exact List.cons_ne_nil c []
    · exact ih hmore
  | case4 c d rest hstart ih =>
    obtain ⟨first, more, hpieces⟩ := camelPieces_cons d rest
    rw [hpieces] at h ih
    rcases List.mem_cons.1 h with rfl | hmore
    · exact List.cons_ne_nil c _
    · exact ih (List.mem_cons_of_mem _ hmore)

/-! ### Words -/

def wordStarts (name : Text) : Nat :=
  (name.zip name.tail).countP fun (before, after) => before.BeginsWord after

theorem wordStarts_cons_cons (c d : CodePoint) (rest : Text) :
    wordStarts (c :: d :: rest) = wordStarts (d :: rest) + if c.BeginsWord d then 1 else 0 := by
  simp [wordStarts, List.countP_cons]

theorem length_camelPieces (name : Text) :
    (camelPieces name).length = if name = [] then 0 else wordStarts name + 1 := by
  fun_induction camelPieces name with
  | case1 => rfl
  | case2 c => rfl
  | case3 c d rest hstart ih =>
    rw [if_neg (List.cons_ne_nil _ _)] at ih ⊢
    rw [List.length_cons, ih, wordStarts_cons_cons, if_pos (isWordStart_iff.1 hstart)]
  | case4 c d rest hstart ih =>
    rw [if_neg (List.cons_ne_nil _ _)] at ih ⊢
    obtain ⟨piece, more, hpieces⟩ := camelPieces_cons d rest
    rw [hpieces] at ih ⊢
    rw [wordStarts_cons_cons, if_neg (mt isWordStart_iff.2 hstart), ← ih]
    rfl

/-- **The words of a name lose nothing of it.**  Put together they are its lower case, none of them
    is empty, and there is one more of them than there are places where a small letter or a digit
    of ASCII stands before a capital.  Only the empty name has none. -/
theorem splitWords_lossless (name : Text) :
    (splitWords name).flatten = Text.lower name ∧ [] ∉ splitWords name ∧
      (splitWords name).length = if name = [] then 0 else wordStarts name + 1 := by
  refine ⟨?_, ?_, ?_⟩
  · rw [splitWords, ← lower_flatten (isChain_camelPieces name), flatten_camelPieces]
  · intro h
    obtain ⟨piece, hpiece, hempty⟩ := List.mem_map.1 h
    exact Text.lower_ne_nil (ne_nil_of_mem_camelPieces hpiece) hempty
  · rw [splitWords, List.length_map, length_camelPieces]

/-- A sigma is final at the end of a word, with a digit behind it as well, but not in front of a
    letter. -/
example : splitWords "ΟΔΟΣ2Go" = [("οδος2" : Text), "go"] ∧
    splitWords "ΟΔΟΣxGo" = [("οδοσx" : Text), "go"] := by decide +kernel

end Ambient
