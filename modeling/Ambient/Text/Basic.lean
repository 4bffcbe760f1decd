/-
  Ambient/Text/Basic.lean
  =======================
  **Texts: sequences of code points.**

  A `Text` is a list of code points, so the list library is its library: length, `++`,
  `isPrefixOf`, `takeWhile` and their lemmas apply as they are.  A string literal stands for the
  text of its characters, both alone and as an operand of `++`.

  What lists lack is here: cutting a text at a separator and joining the pieces, replacing one code
  point by a text, finding a text inside another, and decimal numerals.
-/
import Ambient.Text.CodePoint

namespace Ambient

abbrev Text := List CodePoint

namespace Text

def ofString (s : String) : Text := s.toList.map CodePoint.scalar

instance : Coe String Text := ⟨ofString⟩

instance : HAppend String Text Text := ⟨fun s t => ofString s ++ t⟩

instance : HAppend Text String Text := ⟨fun t s => t ++ ofString s⟩

/-- The string of a text; a surrogate, which no string holds, is shown as U+FFFD. -/
def toStr (t : Text) : String :=
  String.ofList (t.map fun
    | .scalar c => c
    | .surrogate _ => Char.ofNat 0xFFFD)

def hasSurrogate (t : Text) : Bool := t.any CodePoint.isSurrogate

/-! ### Pieces and joints -/

def prependToFirst (c : CodePoint) : List Text → List Text
  | [] => [[c]]
  | first :: more => (c :: first) :: more

/-- The pieces between separators: one more than there are separators. -/
def split (sep : CodePoint) : Text → List Text
  | [] => [[]]
  | c :: rest => if c = sep then [] :: split sep rest else prependToFirst c (split sep rest)

def join (joint : Text) : List Text → Text
  | [] => []
  | [t] => t
  | t :: u :: rest => t ++ joint ++ join joint (u :: rest)

theorem prependToFirst_ne_nil (c : CodePoint) (ts : List Text) : prependToFirst c ts ≠ [] := by
  cases ts <;> simp [prependToFirst]

theorem split_ne_nil (sep : CodePoint) (t : Text) : split sep t ≠ [] := by
  cases t with
  | nil => simp [split]
  | cons c rest =>
    simp only [split]
    split
    · simp
    · exact prependToFirst_ne_nil _ _

/-- A code point in front of the first text is in front of the joined text. -/
theorem join_prependToFirst (joint : Text) (c : CodePoint) {ts : List Text} (h : ts ≠ []) :
    join joint (prependToFirst c ts) = c :: join joint ts := by
  match ts, h with
  | [_], _ => rfl
  | _ :: _ :: _, _ => rfl

theorem notMem_append {c : CodePoint} {a b : Text} (ha : c ∉ a) (hb : c ∉ b) : c ∉ a ++ b := by
  rw [List.mem_append, not_or]
  exact ⟨ha, hb⟩

theorem notMem_join {c : CodePoint} {joint : Text} {texts : List Text} (hjoint : c ∉ joint)
    (h : ∀ t ∈ texts, c ∉ t) : c ∉ join joint texts := by
  match texts with
  | [] => exact List.not_mem_nil
  | [t] => exact h t List.mem_cons_self
  | t :: u :: rest =>
    rw [List.forall_mem_cons] at h
    exact notMem_append (notMem_append h.1 hjoint) (notMem_join hjoint h.2)

theorem not_mem_of_mem_split {sep : CodePoint} {t piece : Text} (h : piece ∈ split sep t) :
    sep ∉ piece := by
  induction t generalizing piece with
  | nil => simp_all [split]
  | cons c rest ih =>
    obtain ⟨first, more, hs⟩ := List.exists_cons_of_ne_nil (split_ne_nil sep rest)
    simp only [split, hs, prependToFirst] at h
    split at h
    · rcases List.mem_cons.1 h with rfl | h
      · simp
      · exact ih (hs ▸ h)
    · next hc =>
      rcases List.mem_cons.1 h with rfl | h
      · have : sep ∉ first := ih (by simp [hs])
        simp only [List.mem_cons, not_or]
        exact ⟨fun h => hc h.symm, this⟩
      · exact ih (by simp [hs, h])

/-! ### Replacing and finding -/

def replace (old : CodePoint) (new : Text) (t : Text) : Text :=
  t.flatMap fun c => if c = old then new else [c]

def mentions (part : Text) : Text → Bool
  | [] => part.isEmpty
  | c :: rest => part.isPrefixOf (c :: rest) || mentions part rest

/-- A text occurs inside another exactly if the other is it with something on either side. -/
theorem mentions_iff {part t : Text} :
    mentions part t = true ↔ ∃ before after, t = before ++ part ++ after := by
  induction t with
  | nil =>
    simp only [mentions, List.isEmpty_iff]
    constructor
    · rintro rfl; exact ⟨[], [], rfl⟩
    · rintro ⟨b, a, h⟩
      simp at h
      exact h.2.1
  | cons c rest ih =>
    simp only [mentions, Bool.or_eq_true, ih, List.isPrefixOf_iff_prefix]
    constructor
    · rintro (⟨a, h⟩ | ⟨b, a, rfl⟩)
      · exact ⟨[], a, by simpa using h.symm⟩
      · exact ⟨c :: b, a, by simp⟩
    · rintro ⟨b, a, h⟩
      cases b with
      | nil => exact .inl ⟨a, by simpa using h.symm⟩
      | cons d b =>
        simp only [List.cons_append, List.cons.injEq] at h
        exact .inr ⟨b, a, h.2⟩

section Mentions

variable {part : Text}

/-- A code point that a part does not hold ends every text in which the part can begin. -/
theorem isPrefixOf_append_cons {c : CodePoint} (hc : c ∉ part) (a b : Text) :
    part.isPrefixOf (a ++ c :: b) = part.isPrefixOf a := by
  induction part generalizing a with
  | nil => simp
  | cons d rest ih =>
    rw [List.mem_cons, not_or] at hc
    cases a with
    | nil => simp [List.isPrefixOf, beq_eq_false_iff_ne.2 (Ne.symm hc.1)]
    | cons e a =>
      rw [List.cons_append, List.isPrefixOf_cons_cons, List.isPrefixOf_cons_cons, ih hc.2]

/-- A code point that a part does not hold cuts the texts in which the part can occur. -/
theorem mentions_append_cons {c : CodePoint} (hc : c ∉ part) (a b : Text) :
    mentions part (a ++ c :: b) = (mentions part a || mentions part b) := by
  have hbegins := isPrefixOf_append_cons hc
  induction a with
  | nil =>
    have hempty : part.isPrefixOf [] = part.isEmpty := by cases part <;> rfl
    exact congrArg (· || mentions part b) ((hbegins [] b).trans hempty)
  | cons d a ih =>
    rw [List.cons_append, mentions, ih, ← List.cons_append, hbegins, mentions, Bool.or_assoc]

theorem mentions_nil (hne : part ≠ []) : mentions part [] = false := by
  simpa [mentions] using hne

/-- What holds nothing of a part can be left out behind a text. -/
theorem mentions_append_of_forall_notMem (hne : part ≠ []) (t : Text) {z : Text}
    (h : ∀ c ∈ z, c ∉ part) : mentions part (t ++ z) = mentions part t := by
  induction z generalizing t with
  | nil => rw [List.append_nil]
  | cons c z ih =>
    rw [List.forall_mem_cons] at h
    have hz : mentions part z = false := by
      rw [← List.nil_append z, ih [] h.2, mentions_nil hne]
    rw [mentions_append_cons h.1, hz, Bool.or_false]

/-- What holds nothing of a part can be left out in front of a text. -/
theorem mentions_forall_notMem_append (hne : part ≠ []) {z : Text} (h : ∀ c ∈ z, c ∉ part)
    (t : Text) : mentions part (z ++ t) = mentions part t := by
  induction z with
  | nil => rfl
  | cons c z ih =>
    rw [List.forall_mem_cons] at h
    have hhere := mentions_append_cons h.1 [] (z ++ t)
    rw [mentions_nil hne, ih h.2] at hhere
    exact hhere

/-- A part that does not hold the joint occurs in joined texts where it occurs in one of them. -/
theorem mentions_join (hne : part ≠ []) {joint : CodePoint} (hjoint : joint ∉ part)
    (texts : List Text) : mentions part (join [joint] texts) = texts.any (mentions part) := by
  match texts with
  | [] => exact mentions_nil hne
  | [t] => simp [join]
  | t :: u :: rest =>
    have hcut : join [joint] (t :: u :: rest) = t ++ joint :: join [joint] (u :: rest) := by
      simp [join]
    rw [hcut, mentions_append_cons hjoint, mentions_join hne hjoint (u :: rest)]
    rfl

end Mentions

/-- The text with one copy of a first part dropped, if it begins with that part. -/
def dropStart? (part t : Text) : Option Text :=
  if part.isPrefixOf t then some (t.drop part.length) else none

/-- What is left behind a first part is what follows it. -/
theorem dropStart?_eq_some_iff {part t rest : Text} :
    dropStart? part t = some rest ↔ t = part ++ rest := by
  unfold dropStart?
  constructor
  · intro h
    split at h
    · next hp =>
      obtain ⟨tail, rfl⟩ := List.isPrefixOf_iff_prefix.1 hp
      rw [← Option.some.inj h, List.drop_left]
    · exact nomatch h
  · rintro rfl
    rw [if_pos (List.isPrefixOf_iff_prefix.2 ⟨rest, rfl⟩), List.drop_left]

/-! ### Numerals -/

def ofNat (n : Nat) : Text := (Nat.toDigits 10 n).map CodePoint.scalar

def ofInt : Int → Text
  | .ofNat n => ofNat n
  | .negSucc n => "-" ++ ofNat (n + 1)

theorem notMem_ofNat {c : Char} (hdigit : c.isDigit = false) (n : Nat) :
    CodePoint.scalar c ∉ ofNat n := by
  intro h
  obtain ⟨d, hd, hsame⟩ := List.mem_map.1 h
  cases hsame
  rw [Nat.isDigit_of_mem_toDigits (by decide) (by decide) hd] at hdigit
  cases hdigit

theorem notMem_ofInt {c : Char} (hdigit : c.isDigit = false) (hminus : c ≠ '-') (n : Int) :
    CodePoint.scalar c ∉ ofInt n := by
  match n with
  | .ofNat n => exact notMem_ofNat hdigit n
  | .negSucc n =>
    have hsign : CodePoint.scalar c ∉ ("-" : Text) := fun h =>
      hminus (CodePoint.scalar.inj (List.mem_singleton.1 h))
    exact fun h => (List.mem_append.1 h).elim hsign (notMem_ofNat hdigit (n + 1))

def digitsValue (t : Text) : Nat := t.foldl (fun n c => 10 * n + c.digitValue) 0

/-- A number in hexadecimal, lower-case, with at least the given number of digits. -/
def hexDigits (width n : Nat) : Text :=
  let digits := Nat.toDigits 16 n
  (List.replicate (width - digits.length) '0' ++ digits).map CodePoint.scalar

end Text

end Ambient
