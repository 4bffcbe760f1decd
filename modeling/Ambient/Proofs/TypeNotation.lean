/-
  Ambient/Proofs/TypeNotation.lean
  ================================
  **Blanks and marks at the end of a documented type.**

  A documented type is read from its two ends: blanks are trimmed, and two brackets at the end
  make an array of all that stands before them.  So a union whose last member is an array is read
  as an array itself.  This file follows one text through both readings: what trimming and cutting
  do to a text with something put behind it (`trim_append_blanks`, `splitAtDepth_append`), and
  from it what a text of several members is read as (`parse_members`): some number of arrays
  around a union, and its last member alone as that number of arrays around the last member of the
  union, unless this member is nothing but marks.
-/
import Ambient.DocType.Basic

namespace Ambient

namespace Text

/-! ### Trimming a text with something behind it -/

theorem trimStart_append_of_ne {t : Text} (h : trimStart t ≠ []) (z : Text) :
    trimStart (t ++ z) = trimStart t ++ z := by
  induction t with
  | nil => exact absurd rfl h
  | cons c t ih =>
    simp only [trimStart, List.cons_append, List.dropWhile_cons] at h ih ⊢
    split
    · next hc =>
      rw [if_pos hc] at h
      exact ih h
    · rfl

theorem trimStart_append_of_eq {t : Text} (h : trimStart t = []) (z : Text) :
    trimStart (t ++ z) = trimStart z := by
  induction t with
  | nil => rfl
  | cons c t ih =>
    simp only [trimStart, List.cons_append, List.dropWhile_cons] at h ih ⊢
    split at h
    · next hc =>
      rw [if_pos hc]
      exact ih h
    · exact absurd h (List.cons_ne_nil c t)

theorem trimStart_trimStart (t : Text) : trimStart (trimStart t) = trimStart t :=
  trimStart_eq_self fun _ h => head?_trimStart h

theorem trimStart_eq_nil {t : Text} (h : ∀ c ∈ t, c.isBlank = true) : trimStart t = [] := by
  induction t with
  | nil => rfl
  | cons c t ih =>
    rw [List.forall_mem_cons] at h
    simp only [trimStart, List.dropWhile_cons, h.1, if_true]
    exact ih h.2

theorem trimEnd_append_blanks (t : Text) {z : Text} (h : ∀ c ∈ z, c.isBlank = true) :
    trimEnd (t ++ z) = trimEnd t := by
  have hz : trimStart z.reverse = [] := trimStart_eq_nil (by simpa using h)
  have hr := trimStart_append_of_eq hz t.reverse
  simp only [trimEnd, List.reverse_append]
  exact congrArg List.reverse hr

/-- Blanks behind a text are trimmed with it. -/
theorem trim_append_blanks (t : Text) {z : Text} (h : ∀ c ∈ z, c.isBlank = true) :
    trim (t ++ z) = trim t := by
  by_cases ht : trimStart t = []
  · simp only [trim, trimStart_append_of_eq ht, trimStart_eq_nil h, ht]
  · simp only [trim, trimStart_append_of_ne ht, trimEnd_append_blanks _ h]

theorem trim_trimStart (t : Text) : trim (trimStart t) = trim t := by
  simp only [trim, trimStart_trimStart]

theorem trimEnd_append_of_not_blank (t : Text) {c : CodePoint} (hc : c.isBlank = false) :
    trimEnd (t ++ [c]) = t ++ [c] := by
  apply trimEnd_eq_self
  intro d hd
  simp only [List.getLast?_append, List.getLast?_singleton, Option.some_or,
    Option.some.injEq] at hd
  exact hd ▸ hc

/-- What is trimmed off the end of a text. -/
theorem exists_blanks (t : Text) :
    ∃ z, (∀ c ∈ z, c.isBlank = true) ∧ t = trimEnd t ++ z := by
  refine ⟨(t.reverse.takeWhile CodePoint.isBlank).reverse, ?_, ?_⟩
  · intro c hc
    have := List.all_takeWhile (p := CodePoint.isBlank) (l := t.reverse)
    exact List.all_eq_true.1 this c (List.mem_reverse.1 hc)
  · rw [trimEnd, ← List.reverse_append, List.takeWhile_append_dropWhile, List.reverse_reverse]

theorem trim_eq_nil_iff {t : Text} : trim t = [] ↔ trimStart t = [] := by
  constructor
  · intro h
    cases hs : trimStart t with
    | nil => rfl
    | cons c rest =>
      obtain ⟨z, hz, hcut⟩ := exists_blanks (trimStart t)
      rw [show trimEnd (trimStart t) = [] from h, List.nil_append] at hcut
      have hc : c.isBlank = false := head?_trimStart (t := t) (by rw [hs]; rfl)
      have hc' : c.isBlank = true := hz c (by rw [← hcut, hs]; exact List.mem_cons_self)
      exact nomatch hc.symm.trans hc'
  · intro h
    rw [trim, h]
    rfl

/-- A trimmed text ends with what trimming leaves of any end of it. -/
theorem trim_suffix_of_append {t x last : Text} (htrim : trim t = t) (ht : t = x ++ last) :
    trim last <:+ t := by
  obtain ⟨y, hy⟩ : trimStart last <:+ last := List.dropWhile_suffix CodePoint.isBlank
  obtain ⟨z, hz, hcut⟩ := exists_blanks (trimStart last)
  have hwhole : t = x ++ y ++ trim last ++ z := by
    calc t = x ++ (y ++ trimStart last) := by rw [hy, ht]
      _ = x ++ (y ++ (trim last ++ z)) := congrArg (fun s => x ++ (y ++ s)) hcut
      _ = x ++ y ++ trim last ++ z := by simp only [List.append_assoc]
  have hlength : (trim (x ++ y ++ trim last ++ z)).length ≤ (x ++ y ++ trim last).length := by
    rw [trim_append_blanks _ hz]
    exact length_trim_le _
  rw [← hwhole, htrim, hwhole, List.length_append] at hlength
  have hnil : z = [] := List.length_eq_zero_iff.1 (by omega)
  rw [hwhole, hnil, List.append_nil]
  exact List.suffix_append _ _

/-! ### Joining texts -/

theorem join_concat (joint : Text) {init : List Text} (h : init ≠ []) (last : Text) :
    join joint (init ++ [last]) = join joint init ++ joint ++ last := by
  match init, h with
  | [_], _ => rfl
  | first :: second :: rest, _ =>
    have := join_concat joint (List.cons_ne_nil second rest) last
    simp only [List.cons_append] at this
    simp only [List.cons_append, join, this, List.append_assoc]

end Text

/-! ### Cutting a text with something behind it -/

def appendToLast (z : Text) : List Text → List Text
  | [] => [z]
  | [last] => [last ++ z]
  | first :: second :: rest => first :: appendToLast z (second :: rest)

theorem appendToLast_append (z : Text) (init : List Text) (last : Text) :
    appendToLast z (init ++ [last]) = init ++ [last ++ z] := by
  induction init with
  | nil => rfl
  | cons first init ih =>
    cases init with
    | nil => rfl
    | cons second rest => exact congrArg (first :: ·) ih

theorem prependToFirst_appendToLast (c : CodePoint) (z : Text) {parts : List Text}
    (h : parts ≠ []) :
    Text.prependToFirst c (appendToLast z parts) =
      appendToLast z (Text.prependToFirst c parts) := by
  match parts, h with
  | [_], _ => rfl
  | _ :: _ :: _, _ => rfl

theorem cons_appendToLast (first z : Text) {parts : List Text} (h : parts ≠ []) :
    first :: appendToLast z parts = appendToLast z (first :: parts) := by
  match parts, h with
  | _ :: _, _ => rfl

theorem splitAtDepth_eq_singleton {sep : CodePoint} {z : Text}
    (h : ∀ c ∈ z, c ≠ '(' ∧ c ≠ ')' ∧ c ≠ sep) (depth : Nat) :
    splitAtDepth sep depth z = [z] := by
  induction z with
  | nil => rfl
  | cons c z ih =>
    rw [List.forall_mem_cons] at h
    obtain ⟨⟨hopen, hclose, hsep⟩, hz⟩ := h
    simp only [splitAtDepth, hopen, hclose, hsep, if_false, false_and, ih hz,
      Text.prependToFirst]

/-- A text that holds no parenthesis and no separator goes to the last part. -/
theorem splitAtDepth_append {sep : CodePoint} {z : Text}
    (h : ∀ c ∈ z, c ≠ '(' ∧ c ≠ ')' ∧ c ≠ sep) (depth : Nat) (t : Text) :
    splitAtDepth sep depth (t ++ z) = appendToLast z (splitAtDepth sep depth t) := by
  induction t generalizing depth with
  | nil => exact splitAtDepth_eq_singleton h depth
  | cons c t ih =>
    simp only [List.cons_append, splitAtDepth, ih]
    split
    · exact prependToFirst_appendToLast c z (splitAtDepth_ne_nil sep _ t)
    · split
      · exact prependToFirst_appendToLast c z (splitAtDepth_ne_nil sep _ t)
      · split
        · exact cons_appendToLast [] z (splitAtDepth_ne_nil sep _ t)
        · exact prependToFirst_appendToLast c z (splitAtDepth_ne_nil sep _ t)

theorem splitTop_append {sep : CodePoint} {t z last : Text} {init : List Text}
    (h : ∀ c ∈ z, c ≠ '(' ∧ c ≠ ')' ∧ c ≠ sep)
    (ht : splitTop sep (t ++ z) = init ++ [last]) :
    ∃ y, last = y ++ z ∧ splitTop sep t = init ++ [y] := by
  obtain ⟨first, y, hy⟩ := List.eq_nil_or_concat (splitTop sep t) |>.resolve_left
    (splitAtDepth_ne_nil sep 0 t)
  have happend : splitTop sep (t ++ z) = appendToLast z (splitTop sep t) :=
    splitAtDepth_append h 0 t
  rw [hy, List.concat_eq_append, appendToLast_append, ht] at happend
  obtain ⟨rfl, hlast⟩ := List.append_inj' happend rfl
  refine ⟨y, ?_, ?_⟩
  · simpa using hlast
  · rw [hy, List.concat_eq_append]

/-! ### Reading a text with a mark behind it -/

namespace DocType

theorem parse_congr {t u : Text} (h : t.trim = u.trim) : parse t = parse u := by
  rw [parse_eq t, parse_eq u, h]

theorem parse_trim (t : Text) : parse t.trim = parse t := parse_congr (Text.trim_trim t)

theorem parse_trimStart (t : Text) : parse t.trimStart = parse t :=
  parse_congr (Text.trim_trimStart t)

theorem parse_append_blanks (t : Text) {z : Text} (h : ∀ c ∈ z, c.isBlank = true) :
    parse (t ++ z) = parse t :=
  parse_congr (Text.trim_append_blanks t h)

theorem parse_of_trim_eq_nil {t : Text} (h : t.trim = []) : parse t = blank := by
  rw [parse_eq, h]
  rfl

theorem trim_append_mark_of_ne {t : Text} (h : t.trim ≠ []) :
    (t ++ arrayMark).trim = t.trimStart ++ arrayMark := by
  have hs : t.trimStart ≠ [] := fun hs => h (Text.trim_eq_nil_iff.2 hs)
  have hmark : t.trimStart ++ arrayMark = t.trimStart ++ [.scalar '['] ++ [.scalar ']'] :=
    (List.append_assoc t.trimStart [.scalar '['] [.scalar ']']).symm
  have hlast : (CodePoint.scalar ']').isBlank = false := by decide
  rw [Text.trim, Text.trimStart_append_of_ne hs, hmark]
  exact Text.trimEnd_append_of_not_blank (t.trimStart ++ [.scalar '[']) hlast

theorem trim_append_mark_of_eq {t : Text} (h : t.trim = []) :
    (t ++ arrayMark).trim = arrayMark := by
  rw [Text.trim, Text.trimStart_append_of_eq (Text.trim_eq_nil_iff.1 h)]
  decide

theorem isArrayText_append_mark {t : Text} (h : t ≠ []) :
    isArrayText (t ++ arrayMark) = true := by
  have hlength : 0 < t.length := List.length_pos_iff.2 h
  have hsuffix : arrayMark.isSuffixOf (t ++ arrayMark) = true :=
    List.isSuffixOf_iff_suffix.2 (List.suffix_append t arrayMark)
  have hmark : arrayMark.length = 2 := rfl
  simp only [isArrayText, hsuffix, Bool.and_true, decide_eq_true_eq, List.length_append]
  omega

theorem elementText_append_mark (t : Text) : elementText (t ++ arrayMark) = t := by
  simp [elementText]

/-- The text of an array is the text of its element and the mark. -/
theorem elementText_append_of_isArrayText {t : Text} (h : isArrayText t = true) :
    t = elementText t ++ arrayMark := by
  simp only [isArrayText, Bool.and_eq_true] at h
  obtain ⟨x, hx⟩ := List.isSuffixOf_iff_suffix.1 h.2
  rw [← hx, elementText_append_mark]

theorem parse_of_isArrayText {t : Text} (h : isArrayText t.trim = true) :
    parse t = array (parse (elementText t.trim)) := by
  have hne : t.trim.isEmpty = false := by
    cases ht : t.trim with
    | nil => rw [ht] at h; exact nomatch h
    | cons c rest => rfl
  rw [parse_eq, if_neg (by simp [hne]), if_pos h]

/-- The mark behind a text that is not blank makes an array of it. -/
theorem parse_append_mark_of_ne {t : Text} (h : t.trim ≠ []) :
    parse (t ++ arrayMark) = array (parse t) := by
  have hs : t.trimStart ≠ [] := fun hs => h (Text.trim_eq_nil_iff.2 hs)
  have hmark := isArrayText_append_mark hs
  rw [← trim_append_mark_of_ne h] at hmark
  rw [parse_of_isArrayText hmark, trim_append_mark_of_ne h, elementText_append_mark,
    parse_trimStart]

/-- The mark alone is a word. -/
theorem parse_append_mark_of_eq {t : Text} (h : t.trim = []) :
    parse (t ++ arrayMark) = word arrayMark := by
  rw [parse_eq, trim_append_mark_of_eq h]
  rfl

/-! ### Reading a text of several members -/

/-- The type with some number of arrays around it. -/
def arrays : Nat → DocType → DocType
  | 0, t => t
  | k + 1, t => array (arrays k t)

/-- What stands under all arrays of a type. -/
def innermost : DocType → DocType
  | array element => innermost element
  | t => t

theorem parse_of_members {t : Text} (htrim : t.trim = t) (harray : isArrayText t = false)
    (hmany : 2 ≤ (splitTop '|' t).length) : parse t = union ((splitTop '|' t).map parse) := by
  have hne : t.isEmpty = false := by
    cases t with
    | nil => exact absurd hmany (by decide)
    | cons c rest => rfl
  rw [parse_eq, htrim, if_neg (by simp [hne]), if_neg (by simp [harray]), if_pos hmany]

theorem suffix_of_innermost {t : Text} (h : (parse t).innermost = word arrayMark) :
    arrayMark <:+ t.trim := by
  by_cases harray : isArrayText t.trim = true
  · rw [elementText_append_of_isArrayText harray]
    exact List.suffix_append _ _
  · rw [parse_eq, if_neg harray] at h
    split at h
    · cases h
    · split at h
      · cases h
      · split at h
        · cases h
        · exact ⟨[], (word.inj h).symm⟩

/-- A text of several members that is no array ends in more than marks. -/
theorem innermost_last_ne {t last : Text} {init : List Text} (htrim : t.trim = t)
    (hsplit : splitTop '|' t = init ++ [last]) (hinit : init ≠ [])
    (harray : isArrayText t = false) : (parse last).innermost ≠ word arrayMark := by
  intro h
  have ht : t = Text.join "|" init ++ "|" ++ last := by
    rw [← Text.join_concat _ hinit, ← hsplit]
    exact (join_splitTop '|' t).symm
  obtain ⟨w, hw⟩ := (suffix_of_innermost h).trans (Text.trim_suffix_of_append htrim ht)
  have hne : w ≠ [] := by
    rintro rfl
    have hone : splitTop '|' arrayMark = [arrayMark] := rfl
    rw [← hw, List.nil_append, hone] at hsplit
    have hlength := congrArg List.length hsplit
    have hpos := List.length_pos_iff.2 hinit
    rw [List.length_append, List.length_singleton, List.length_singleton] at hlength
    omega
  rw [← hw, isArrayText_append_mark hne] at harray
  exact nomatch harray

theorem parse_of_trimmed_mark {t x : Text} (htrim : t.trim = t) (hx : t = x ++ arrayMark)
    (harray : isArrayText t = true) :
    parse t = array (parse x.trimEnd) ∧ x.trimEnd.trim = x.trimEnd := by
  have hne : x.trim ≠ [] := by
    intro hnil
    rw [hx, trim_append_mark_of_eq hnil, ← hx] at htrim
    rw [← htrim] at harray
    exact nomatch harray
  have hstart : x.trimStart = x := by
    rw [hx, trim_append_mark_of_ne hne] at htrim
    exact List.append_cancel_right htrim
  have htrimEnd : x.trim = x.trimEnd := by rw [Text.trim, hstart]
  refine ⟨?_, ?_⟩
  · rw [hx, parse_append_mark_of_ne hne, ← parse_trim x, htrimEnd]
  · rw [← htrimEnd, Text.trim_trim]

theorem eq_zero_of_arrays_eq_blank {k : Nat} {t : DocType} (h : arrays k t = blank) :
    k = 0 ∧ t = blank := by
  cases k with
  | zero => exact ⟨rfl, h⟩
  | succ k => exact nomatch h

/-- **A text of several members** is read as some number of arrays around a union of its members.
    Its last member alone is read as that number of arrays around the last member of the union,
    unless it has nothing but marks: then it is a mark with one array less around it, and the last
    member of the union is blank. -/
theorem parse_members {t last : Text} {init : List Text} (htrim : t.trim = t)
    (hsplit : splitTop '|' t = init ++ [last]) (hinit : init ≠ []) :
    ∃ k inner, parse t = arrays k (union (init.map parse ++ [inner])) ∧
      (isArrayText t = false ↔ k = 0) ∧
      ((parse last).innermost ≠ word arrayMark ∧ parse last = arrays k inner ∨
        (parse last).innermost = word arrayMark ∧ inner = blank ∧
          ∃ j, k = j + 1 ∧ parse last = arrays j (word arrayMark)) := by
  by_cases harray : isArrayText t = true
  · -- cut off the mark and the blanks before it, and read what is left in the same way
    obtain ⟨x, hx⟩ : ∃ x, t = x ++ arrayMark :=
      ⟨elementText t, elementText_append_of_isArrayText harray⟩
    have hmark : ∀ c ∈ arrayMark, c ≠ .scalar '(' ∧ c ≠ .scalar ')' ∧ c ≠ .scalar '|' := by decide
    obtain ⟨y, rfl, hsplitx⟩ := splitTop_append hmark (hx ▸ hsplit)
    obtain ⟨z, hz, hxz⟩ := Text.exists_blanks x
    have hblank : ∀ c ∈ z, c ≠ .scalar '(' ∧ c ≠ .scalar ')' ∧ c ≠ .scalar '|' := by
      intro c hc
      have := hz c hc
      refine ⟨?_, ?_, ?_⟩ <;> rintro rfl <;> revert this <;> decide
    obtain ⟨v, rfl, hsplitv⟩ := splitTop_append hblank (hxz ▸ hsplitx)
    obtain ⟨hparse, htrimEnd⟩ := parse_of_trimmed_mark htrim hx harray
    have hshorter : x.trimEnd.length < t.length := by
      have := Text.length_trimEnd_le x
      rw [hx, List.length_append, show arrayMark.length = 2 from rfl]
      omega
    obtain ⟨k, inner, hinner, -, hlast⟩ := parse_members htrimEnd hsplitv hinit
    refine ⟨k + 1, inner, by rw [hparse, hinner]; rfl, by simp [harray], ?_⟩
    have hvz : parse (v ++ z) = parse v := parse_append_blanks v hz
    by_cases hv : v.trim = []
    · -- nothing but marks: the blank member becomes the mark alone
      have hmarkOnly : parse (v ++ z ++ arrayMark) = word arrayMark :=
        parse_append_mark_of_eq (by rw [Text.trim_append_blanks v hz, hv])
      rw [parse_of_trim_eq_nil hv] at hlast
      rcases hlast with ⟨-, hk⟩ | ⟨hmarks, -⟩
      · obtain ⟨rfl, rfl⟩ := eq_zero_of_arrays_eq_blank hk.symm
        exact Or.inr ⟨by rw [hmarkOnly]; rfl, rfl, 0, rfl, hmarkOnly⟩
      · exact nomatch hmarks
    · have hone : parse (v ++ z ++ arrayMark) = array (parse v) := by
        rw [parse_append_mark_of_ne (by rwa [Text.trim_append_blanks v hz]), hvz]
      rw [hone]
      rcases hlast with ⟨hne, hk⟩ | ⟨hmarks, hblankInner, j, rfl, hj⟩
      · exact Or.inl ⟨hne, congrArg array hk⟩
      · exact Or.inr ⟨hmarks, hblankInner, j + 1, rfl, congrArg array hj⟩
  · have hfalse : isArrayText t = false := by simpa using harray
    have hmany : 2 ≤ (splitTop '|' t).length := by
      have := List.length_pos_iff.2 hinit
      rw [hsplit, List.length_append, List.length_singleton]
      omega
    refine ⟨0, parse last, ?_, by simp [hfalse], Or.inl ⟨?_, rfl⟩⟩
    · rw [parse_of_members htrim hfalse hmany, hsplit, List.map_append]
      rfl
    · exact innermost_last_ne htrim hsplit hinit hfalse
termination_by t.length

end DocType

end Ambient
