/-
  Ambient/Proofs/CapitalSymbols.lean
  ==================================
  **Which texts are symbols in capitals.**

  Capitals are made code point by code point, although the small letters that come between are
  not: the two small forms of the sigma have one capital (`Text.upper_lower`).  Beyond ASCII some
  letters have capitals of ASCII: the sharp s, the ligatures of Latin letters, and those that are a
  symbol by themselves, but for the capital I with a dot, which keeps the dot as a mark of its own.
  All other code points beyond ASCII have one beyond ASCII among their capitals
  (`CodePoint.exists_far_capital`), as the rows of the case tables tell.

  So a text is a symbol in capitals exactly if it is a row of such code points without a digit of
  ASCII in front (`Text.isSymbol_upper_lower`).
-/
import Ambient.Symbol
import Ambient.Text.Blank
import Ambient.Text.Case
import Mathlib.Data.List.TakeWhile

namespace Ambient

/-! ### Rows of the case tables -/

namespace CaseRun

theorem apply_cases (runs : List CaseRun) (n : Nat) :
    apply runs n = n ∨ ∃ r ∈ runs, r.holds n = true ∧ apply runs n = (n + r.distance).toNat := by
  unfold apply
  cases h : runs.find? fun r => r.holds n with
  | none => exact .inl rfl
  | some r =>
    have hholds := List.find?_some (p := fun r => holds r n) h
    exact .inr ⟨r, List.mem_of_find?_eq_some h, hholds, rfl⟩

/-- Whether a number is one of ASCII, or of some numbers beyond it. -/
def Near (codes : List Nat) (n : Nat) : Prop := n < 0x80 ∨ n ∈ codes

instance (codes : List Nat) (n : Nat) : Decidable (Near codes n) :=
  inferInstanceAs (Decidable (_ ∨ _))

/-- The rows map what is not near to what is not near. -/
def KeepFar (runs : List CaseRun) (codes : List Nat) : Prop :=
  ∀ r ∈ runs,
    (r.last < 0x80 ∨ r.first = r.last ∧ r.first ∈ codes ∨ 0x80 ≤ (r.first : Int) + r.distance) ∧
      ∀ n ∈ codes, r.holds (n - r.distance).toNat = true → Near codes (n - r.distance).toNat

instance (runs : List CaseRun) (codes : List Nat) : Decidable (KeepFar runs codes) :=
  inferInstanceAs (Decidable (∀ r ∈ runs, _))

theorem KeepFar.not_near_apply {runs : List CaseRun} {codes : List Nat} (h : KeepFar runs codes)
    {n : Nat} (hn : ¬ Near codes n) : ¬ Near codes (apply runs n) := by
  rcases apply_cases runs n with hsame | ⟨r, hr, hholds, happly⟩
  · rwa [hsame]
  · obtain ⟨hfirst, hback⟩ := h r hr
    obtain ⟨hascii, hcodes⟩ := not_or.1 hn
    have hrow := hholds
    simp only [holds, Bool.and_eq_true, decide_eq_true_eq] at hrow
    have hge : 0x80 ≤ (r.first : Int) + r.distance := by
      rcases hfirst with hlast | ⟨hone, hmem⟩ | hge
      · omega
      · have hsame : n = r.first := by omega
        exact absurd (hsame ▸ hmem) hcodes
      · exact hge
    rw [happly]
    rintro (hlt | hmem)
    · omega
    · -- the number that the row maps to this one is the number itself
      have hpreimage : (((n + r.distance).toNat : Int) - r.distance).toNat = n := by omega
      have hnear := hback _ hmem
      rw [hpreimage] at hnear
      exact hn (hnear hholds)

end CaseRun

namespace CodePoint

theorem code_of_ofCode? {n : Nat} {c : CodePoint} (h : ofCode? n = some c) : c.code = n := by
  unfold ofCode? at h
  by_cases hsurrogate : firstSurrogate ≤ n ∧ n < firstSurrogate + 2048
  · rw [dif_pos hsurrogate] at h
    cases h
    exact Nat.add_sub_cancel' hsurrogate.1
  · rw [dif_neg hsurrogate] at h
    by_cases hchar : n.isValidChar
    · rw [dif_pos hchar] at h
      cases h
      rfl
    · rw [dif_neg hchar] at h
      cases h

theorem mapCase_of_lookup_eq_none {sequences : List (Nat × List Nat)} {runs : List CaseRun}
    {codes : List Nat} (hruns : CaseRun.KeepFar runs codes) {c : CodePoint}
    (hc : ¬ CaseRun.Near codes c.code) (h : sequences.lookup c.code = none) :
    ∃ d, mapCase sequences runs c = [d] ∧ ¬ CaseRun.Near codes d.code := by
  simp only [mapCase, h]
  split
  · next d hd =>
    refine ⟨d, rfl, ?_⟩
    rw [code_of_ofCode? hd]
    exact hruns.not_near_apply hc
  · exact ⟨c, rfl, hc⟩

/-! ### Capitals of one code point -/

def capitals (c : CodePoint) : Text := Text.upper c.lower

/-- The numbers of the letters that are no symbols, but have capitals of ASCII: the sharp s in both
    cases, and the ligatures of Latin letters. -/
def joinedLetterCodes : List Nat :=
  [0xDF, 0x1E9E, 0xFB00, 0xFB01, 0xFB02, 0xFB03, 0xFB04, 0xFB05, 0xFB06]

abbrev IsNear (c : CodePoint) : Prop := CaseRun.Near caseVariantCodes c.code

/-- Whether a code point is near to ASCII, or a letter whose capitals are. -/
abbrev IsNearInCapitals (c : CodePoint) : Prop :=
  CaseRun.Near (caseVariantCodes ++ joinedLetterCodes) c.code

theorem IsNear.inCapitals {c : CodePoint} (h : c.IsNear) : c.IsNearInCapitals :=
  h.imp_right (List.mem_append_left _)

theorem not_ascii_of_le {c : CodePoint} (h : 0x80 ≤ c.code) :
    c.isAsciiUpper = false ∧ c.isAsciiLower = false ∧ c.isAsciiDigit = false := by
  cases c with
  | surrogate k => exact ⟨rfl, rfl, rfl⟩
  | scalar c =>
    have hcode : 0x80 ≤ c.val.toNat := h
    have hbeyond : ∀ d : Char, d.val.toNat < 0x80 → ¬ c.val ≤ d.val := by
      intro d hd hle
      have hnat := UInt32.le_iff_toNat_le.1 hle
      omega
    refine ⟨?_, ?_, ?_⟩
    · exact decide_eq_false fun hletter => hbeyond 'Z' (by decide) hletter.2
    · exact Bool.and_eq_false_iff.2 (.inr (decide_eq_false (hbeyond 'z' (by decide))))
    · exact Bool.and_eq_false_iff.2 (.inr (decide_eq_false (hbeyond '9' (by decide))))

/-- What is not near to ASCII has no place in a symbol, and ends no line. -/
theorem outside_of_not_near {c : CodePoint} (h : ¬ c.IsNear) :
    c.isSymbolPart = false ∧ c ≠ '\n' := by
  obtain ⟨hascii, hvariant⟩ := not_or.1 h
  obtain ⟨hupper, hlower, hdigit⟩ := not_ascii_of_le (Nat.not_lt.1 hascii)
  have hne : ∀ d : Char, d.toNat < 0x80 → c ≠ d := by
    rintro d hd rfl
    exact hascii hd
  refine ⟨?_, hne '\n' (by decide)⟩
  simp [isSymbolPart, isSymbolStart, isSymbolLetter, hupper, hlower, hdigit, hvariant,
    hne '$' (by decide), hne '_' (by decide)]

/-- No blank has a place in a symbol. -/
theorem isBlank_of_isSymbolPart {c : CodePoint} (h : c.isSymbolPart = true) :
    c.isBlank = false := by
  have hsigns : ∀ n < 0x21, ∀ c ∈ ofCode? n, c.isSymbolPart = false := by decide
  have hvariants : ∀ n ∈ caseVariantCodes, Span.anyHolds blankSpans n = false := by decide
  have hnear : c.IsNear := by
    by_contra hfar
    exact Bool.false_ne_true ((outside_of_not_near hfar).1.symm.trans h)
  rcases hnear with hascii | hvariant
  · refine Bool.eq_false_iff.2 fun hblank => ?_
    -- the blanks of ASCII come before all signs
    have hlow : c.code < 0x21 := by
      simp [isBlank, Span.anyHolds, blankSpans, Span.ofPairs, Span.holds] at hblank
      omega
    exact Bool.false_ne_true ((hsigns c.code hlow c (ofCode?_code c)).symm.trans h)
  · exact hvariants c.code hvariant

theorem exists_lower_eq {c : CodePoint} (h : ¬ c.IsNearInCapitals) :
    ∃ d, c.lower = [d] ∧ ¬ d.IsNearInCapitals := by
  have hruns : CaseRun.KeepFar lowerRuns (caseVariantCodes ++ joinedLetterCodes) := by
    decide +kernel
  have hnone : lowerSequences.lookup c.code = none := by
    have hkeys : ∀ e ∈ lowerSequences, e.1 ∈ caseVariantCodes ++ joinedLetterCodes := by decide
    refine List.lookup_eq_none_iff.2 fun e he => bne_iff_ne.2 ?_
    intro heq
    exact h (.inr (heq ▸ hkeys e he))
  unfold lower
  rw [if_neg fun hascii => h (.inl hascii)]
  exact mapCase_of_lookup_eq_none hruns h hnone

theorem keepFar_upperRuns : CaseRun.KeepFar upperRuns caseVariantCodes := by decide +kernel

theorem mem_of_lookup {sequences : List (Nat × List Nat)} {n : Nat} {codes : List Nat}
    (h : sequences.lookup n = some codes) : (n, codes) ∈ sequences := by
  obtain ⟨before, after, rfl, -⟩ := List.lookup_eq_some_iff.1 h
  exact List.mem_append_right _ List.mem_cons_self

theorem exists_far_upper {c : CodePoint} (h : ¬ c.IsNearInCapitals) :
    ∃ d ∈ c.upper, ¬ d.IsNear := by
  unfold upper
  rw [if_neg fun hascii => h (.inl hascii)]
  cases hsequence : upperSequences.lookup c.code with
  | none =>
    obtain ⟨d, hd, hfar⟩ :=
      mapCase_of_lookup_eq_none keepFar_upperRuns (mt IsNear.inCapitals h) hsequence
    rw [hd]
    exact ⟨d, List.mem_singleton_self d, hfar⟩
  | some codes =>
    have hsequences : ∀ e ∈ upperSequences, e.1 ∈ joinedLetterCodes ∨
        ∃ n ∈ e.2, ¬ CaseRun.Near caseVariantCodes n ∧ (ofCode? n).isSome = true := by
      decide
    rcases hsequences _ (mem_of_lookup hsequence) with hjoined | ⟨n, hn, hfar, hsome⟩
    · exact absurd (.inr (List.mem_append_right _ hjoined)) h
    · obtain ⟨d, hd⟩ := Option.isSome_iff_exists.1 hsome
      refine ⟨d, ?_, ?_⟩
      · simp only [mapCase, hsequence]
        exact List.mem_filterMap.2 ⟨n, hn, hd⟩
      · rwa [IsNear, code_of_ofCode? hd]

theorem isAsciiLower_upper_near :
    (∀ n < 0x80, ∀ c ∈ ofCode? n, ∀ d ∈ c.upper, d.isAsciiLower = false) ∧
      ∀ n ∈ caseVariantCodes, ∀ c ∈ ofCode? n, ∀ d ∈ c.upper, d.isAsciiLower = false := by
  decide +kernel

/-- No small letter of ASCII is left in upper case. -/
theorem isAsciiLower_of_mem_upper {c d : CodePoint} (h : d ∈ c.upper) :
    d.isAsciiLower = false := by
  by_cases hnear : c.IsNear
  · rcases hnear with hascii | hvariant
    · exact isAsciiLower_upper_near.1 _ hascii c (ofCode?_code c) d h
    · exact isAsciiLower_upper_near.2 _ hvariant c (ofCode?_code c) d h
  · unfold upper at h
    rw [if_neg fun hascii => hnear (.inl hascii)] at h
    cases hsequence : upperSequences.lookup c.code with
    | none =>
      obtain ⟨e, he, hfar⟩ := mapCase_of_lookup_eq_none keepFar_upperRuns hnear hsequence
      rw [he] at h
      obtain rfl := List.mem_singleton.1 h
      exact (not_ascii_of_le (Nat.not_lt.1 fun hascii => hfar (.inl hascii))).2.1
    | some codes =>
      have hsequences : ∀ e ∈ upperSequences, ∀ n ∈ e.2, ∀ d ∈ ofCode? n,
          d.isAsciiLower = false := by decide
      simp only [mapCase, hsequence] at h
      obtain ⟨n, hn, hd⟩ := List.mem_filterMap.1 h
      exact hsequences _ (mem_of_lookup hsequence) n hn d hd

/-- A code point beyond ASCII has one beyond ASCII among its capitals, but for few letters. -/
theorem exists_far_capital {c : CodePoint} (h : ¬ c.IsNearInCapitals) :
    ∃ d ∈ c.capitals, ¬ d.IsNear := by
  obtain ⟨small, hsmall, hfar⟩ := exists_lower_eq h
  simpa [capitals, Text.upper, hsmall] using exists_far_upper hfar

/-! ### Capitals and symbols -/

def isCapitalPart (c : CodePoint) : Bool :=
  (c.isSymbolPart && c.code != 0x130) || joinedLetterCodes.contains c.code

def isCapitalStart (c : CodePoint) : Bool := c.isCapitalPart && !c.isAsciiDigit

/-- What the capitals of a code point are in a symbol: part of it, the line feed, which may end it,
    or neither. -/
def FitsCapitals (c : CodePoint) : Prop :=
  if c.isCapitalPart then
    c.capitals.head?.map isSymbolStart = some c.isCapitalStart ∧
      ∀ d ∈ c.capitals, d.isSymbolPart = true
  else if c = '\n' then c.capitals = [c]
  else ∃ d ∈ c.capitals, d.isSymbolPart = false ∧ d ≠ '\n'

instance : DecidablePred FitsCapitals := fun _ => inferInstanceAs (Decidable (ite _ _ _))

theorem fitsCapitals_near :
    (∀ n < 0x80, ∀ c ∈ ofCode? n, c.FitsCapitals) ∧
      ∀ n ∈ caseVariantCodes ++ joinedLetterCodes, ∀ c ∈ ofCode? n, c.FitsCapitals := by
  decide +kernel

theorem fitsCapitals (c : CodePoint) : c.FitsCapitals := by
  by_cases h : c.IsNearInCapitals
  · rcases h with hascii | hletter
    · exact fitsCapitals_near.1 _ hascii c (ofCode?_code c)
    · exact fitsCapitals_near.2 _ hletter c (ofCode?_code c)
  · have hpart : c.isCapitalPart = false := by
      simp only [isCapitalPart, (outside_of_not_near (mt IsNear.inCapitals h)).1, Bool.false_and,
        Bool.false_or, List.contains_eq_mem, decide_eq_false_iff_not]
      exact fun hjoined => h (.inr (List.mem_append_right _ hjoined))
    obtain ⟨d, hd, hfar⟩ := exists_far_capital h
    rw [FitsCapitals, if_neg (Bool.eq_false_iff.1 hpart),
      if_neg (outside_of_not_near (mt IsNear.inCapitals h)).2]
    exact ⟨d, hd, outside_of_not_near hfar⟩

theorem capitals_ne_nil (c : CodePoint) : c.capitals ≠ [] := by
  have hfits := c.fitsCapitals
  intro hnil
  simp [FitsCapitals, hnil] at hfits

end CodePoint

namespace Text

def isCapitalSymbol : Text → Bool
  | [] => false
  | c :: rest => c.isCapitalStart && isOver (rest.dropWhile CodePoint.isCapitalPart)

theorem isOver_iff {t : Text} : t.isOver = true ↔ t = [] ∨ t = [.scalar '\n'] := by
  simp [isOver]

theorem isOver_dropWhile_eq_false {p : CodePoint → Bool} {t : Text} {c : CodePoint} (hc : c ∈ t)
    (hp : p c = false) (hne : c ≠ '\n') : isOver (t.dropWhile p) = false := by
  have hdropped : c ∈ t.dropWhile p := by
    rw [← List.takeWhile_append_dropWhile (p := p) (l := t)] at hc
    rcases List.mem_append.1 hc with htaken | hdropped
    · exact absurd (List.mem_takeWhile_imp htaken) (Bool.eq_false_iff.1 hp)
    · exact hdropped
  refine Bool.eq_false_iff.2 fun hover => ?_
  rcases isOver_iff.1 hover with hnil | hfeed
  · rw [hnil] at hdropped
    cases hdropped
  · rw [hfeed] at hdropped
    exact hne (List.mem_singleton.1 hdropped)

theorem isOver_dropWhile_capitals (t : Text) :
    isOver ((t.flatMap CodePoint.capitals).dropWhile CodePoint.isSymbolPart) =
      isOver (t.dropWhile CodePoint.isCapitalPart) := by
  induction t with
  | nil => rfl
  | cons c rest ih =>
    have hfits := c.fitsCapitals
    unfold CodePoint.FitsCapitals at hfits
    rw [List.flatMap_cons]
    by_cases hpart : c.isCapitalPart = true
    · rw [if_pos hpart] at hfits
      rw [List.dropWhile_append_of_pos hfits.2, List.dropWhile_cons_of_pos hpart, ih]
    · rw [if_neg hpart] at hfits
      rw [List.dropWhile_cons_of_neg hpart]
      by_cases hfeed : c = '\n'
      · rw [if_pos hfeed] at hfits
        rw [hfits, hfeed]
        -- behind a line feed both texts have nothing, or both have something
        cases rest with
        | nil => rfl
        | cons d rest =>
          obtain ⟨e, es, hcapitals⟩ := List.exists_cons_of_ne_nil d.capitals_ne_nil
          have hout : CodePoint.isSymbolPart '\n' = false := by decide
          simp [isOver, hcapitals, hout]
      · rw [if_neg hfeed] at hfits
        obtain ⟨d, hd, hout, hne⟩ := hfits
        rw [isOver_dropWhile_eq_false (List.mem_append_left _ hd) hout hne]
        simp [isOver, hfeed]

theorem isAsciiLower_of_mem_upper {t : Text} {d : CodePoint} (h : d ∈ upper t) :
    d.isAsciiLower = false := by
  obtain ⟨c, -, hd⟩ := List.mem_flatMap.1 h
  exact CodePoint.isAsciiLower_of_mem_upper hd

/-- The upper case does not tell the two small forms of the sigma from each other. -/
theorem upper_lower (t : Text) : upper (lower t) = t.flatMap CodePoint.capitals := by
  have hafter : ∀ before, upper (lowerAfter before t) = t.flatMap CodePoint.capitals := by
    induction t with
    | nil => intro before; rfl
    | cons c rest ih =>
      intro before
      have hsmall : upper (if c = CodePoint.capitalSigma then
          [if meetsCased before && !meetsCased rest then CodePoint.finalSigma
            else CodePoint.smallSigma]
          else c.lower) = c.capitals := by
        split
        · next hsigma =>
          subst hsigma
          split <;> decide +kernel
        · rfl
      unfold lowerAfter
      rw [List.flatMap_cons, ← ih (c :: before), ← hsmall]
      exact List.flatMap_append
  exact hafter []

theorem lower_ne_nil {t : Text} (h : t ≠ []) : lower t ≠ [] := by
  obtain ⟨c, rest, rfl⟩ := List.exists_cons_of_ne_nil h
  intro hnil
  have hcapitals := upper_lower (c :: rest)
  rw [hnil, List.flatMap_cons] at hcapitals
  exact List.append_ne_nil_of_left_ne_nil c.capitals_ne_nil _ hcapitals.symm

/-- **Which texts are symbols in capitals.** -/
theorem isSymbol_upper_lower (t : Text) : isSymbol (upper (lower t)) = t.isCapitalSymbol := by
  rw [upper_lower]
  cases t with
  | nil => rfl
  | cons c rest =>
    have hfits := c.fitsCapitals
    unfold CodePoint.FitsCapitals at hfits
    obtain ⟨d, ds, hcapitals⟩ := List.exists_cons_of_ne_nil c.capitals_ne_nil
    rw [List.flatMap_cons]
    rw [hcapitals] at hfits ⊢
    simp only [List.cons_append, isSymbol, isCapitalSymbol]
    -- the first code point may have several capitals: all of them are parts, or one is none
    by_cases hpart : c.isCapitalPart = true
    · rw [if_pos hpart] at hfits
      obtain ⟨hstart, hparts⟩ := hfits
      rw [List.dropWhile_append_of_pos fun e he => hparts e (List.mem_cons_of_mem d he),
        isOver_dropWhile_capitals, Option.some.inj hstart]
    · rw [if_neg hpart] at hfits
      have hstart : c.isCapitalStart = false := by
        simp [CodePoint.isCapitalStart, hpart]
      rw [hstart, Bool.false_and, Bool.and_eq_false_iff]
      by_cases hfeed : c = '\n'
      · rw [if_pos hfeed, hfeed] at hfits
        cases hfits
        exact .inl (by decide)
      · rw [if_neg hfeed] at hfits
        obtain ⟨e, he, hout, hne⟩ := hfits
        rcases List.mem_cons.1 he with rfl | he
        · exact .inl (Bool.or_eq_false_iff.1 hout).1
        · exact .inr (isOver_dropWhile_eq_false (List.mem_append_left _ he) hout hne)

end Text

end Ambient
