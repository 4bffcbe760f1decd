/-
  Ambient/Proofs/LineEnds.lean
  ============================
  **Reading JSON is blind to the spelling of line ends.**

  A file comes to the reader with line feeds for its line ends, an answer from the web comes as it
  is.  That makes no difference to a JSON text: between tokens a carriage return is white space as
  a line feed is, and inside a token there is neither.  So cutting a text into tokens goes the same
  way with line feeds in the place of its line ends, only that what remains at each place has them
  too (`tokens_unixLines`), and reading comes to the same value or the same complaint
  (`read_unixLines`).
-/
import Ambient.Json.Reader
import Ambient.Text.Lines
import Mathlib.Data.List.Basic

namespace Ambient

/-! ### Line ends of a text -/

namespace Text

theorem unixLines_cons {c : CodePoint} (hc : c ≠ '\r') (rest : Text) :
    unixLines (c :: rest) = c :: unixLines rest := by
  rw [unixLines, if_neg hc]
  intro _ h _
  exact hc h

/-- A carriage return becomes a line feed, with the line feed after it if there is one. -/
theorem unixLines_return (rest : Text) :
    ∃ behind, (rest = behind ∨ rest = .scalar '\n' :: behind) ∧
      unixLines (.scalar '\r' :: rest) = .scalar '\n' :: unixLines behind := by
  rcases rest with _ | ⟨c, rest⟩
  · exact ⟨[], .inl rfl, rfl⟩
  · by_cases hc : c = .scalar '\n'
    · subst hc
      exact ⟨rest, .inr rfl, rfl⟩
    · refine ⟨c :: rest, .inl rfl, ?_⟩
      rw [unixLines, if_pos rfl]
      intro _ _ h
      exact hc (List.cons.inj h).1

/-- A text is empty, or begins with a code point that stays, or with a carriage return. -/
theorem line_cases (t : Text) :
    t = [] ∨ (∃ c rest, t = c :: rest ∧ c ≠ .scalar '\r' ∧ unixLines t = c :: unixLines rest) ∨
      ∃ rest behind, t = .scalar '\r' :: rest ∧ unixLines t = .scalar '\n' :: unixLines behind ∧
        (rest = behind ∨ rest = .scalar '\n' :: behind) := by
  rcases t with _ | ⟨c, rest⟩
  · exact .inl rfl
  · by_cases hc : c = .scalar '\r'
    · subst hc
      obtain ⟨behind, hbehind, hu⟩ := unixLines_return rest
      exact .inr (.inr ⟨rest, behind, rfl, hu, hbehind⟩)
    · exact .inr (.inl ⟨c, rest, rfl, hc, unixLines_cons hc rest⟩)

/-- Only a code point that is no carriage return stays in front. -/
theorem unixLines_eq_cons {c : CodePoint} (hc : c ≠ '\n') {t u : Text}
    (h : unixLines t = c :: u) : ∃ rest, t = c :: rest ∧ u = unixLines rest := by
  rcases t.line_cases with rfl | ⟨d, rest, rfl, -, hd⟩ | ⟨rest, behind, rfl, hd, -⟩
  · exact nomatch h
  · rw [hd] at h
    cases h
    exact ⟨rest, rfl, rfl⟩
  · rw [hd] at h
    exact absurd (List.cons.inj h).1.symm hc

variable {p : CodePoint → Bool}

/-- A row of code points that are neither carriage returns nor line feeds stays as it is. -/
theorem takeWhile_unixLines (hreturn : p '\r' = false) (hfeed : p '\n' = false) (t : Text) :
    (unixLines t).takeWhile p = t.takeWhile p := by
  induction t with
  | nil => rfl
  | cons c t ih =>
    by_cases hc : c = .scalar '\r'
    · subst hc
      obtain ⟨behind, -, hu⟩ := unixLines_return t
      rw [hu, List.takeWhile_cons_of_neg (by simp [hfeed]),
        List.takeWhile_cons_of_neg (by simp [hreturn])]
    · rw [unixLines_cons hc, List.takeWhile_cons, List.takeWhile_cons, ih]

theorem dropWhile_unixLines (hreturn : p '\r' = false) (hfeed : p '\n' = false) (t : Text) :
    (unixLines t).dropWhile p = unixLines (t.dropWhile p) := by
  induction t with
  | nil => rfl
  | cons c t ih =>
    by_cases hc : c = .scalar '\r'
    · subst hc
      rw [List.dropWhile_cons_of_neg (by simp [hreturn])]
      obtain ⟨behind, -, hu⟩ := unixLines_return t
      rw [hu, List.dropWhile_cons_of_neg (by simp [hfeed])]
    · rw [unixLines_cons hc, List.dropWhile_cons, List.dropWhile_cons, ih]
      split
      · rfl
      · rw [unixLines_cons hc]

theorem unixLines_append {word : Text} (hword : CodePoint.scalar '\r' ∉ word) (t : Text) :
    unixLines (word ++ t) = word ++ unixLines t := by
  induction word with
  | nil => rfl
  | cons c word ih =>
    rw [List.mem_cons, not_or] at hword
    rw [List.cons_append, unixLines_cons (Ne.symm hword.1), ih hword.2, List.cons_append]

theorem unixLines_eq_append {word : Text} (hword : CodePoint.scalar '\n' ∉ word) {t u : Text}
    (h : unixLines t = word ++ u) : ∃ rest, t = word ++ rest ∧ u = unixLines rest := by
  induction word generalizing t with
  | nil => exact ⟨t, rfl, h.symm⟩
  | cons c word ih =>
    rw [List.mem_cons, not_or] at hword
    obtain ⟨behind, rfl, hbehind⟩ := unixLines_eq_cons (Ne.symm hword.1) h
    obtain ⟨rest, rfl, rfl⟩ := ih hword.2 hbehind.symm
    exact ⟨rest, rfl, rfl⟩

/-- A word in one line is found in front of a text or not, whatever its line ends are. -/
theorem dropStart?_unixLines {word : Text} (hreturn : CodePoint.scalar '\r' ∉ word)
    (hfeed : CodePoint.scalar '\n' ∉ word) (t : Text) :
    dropStart? word (unixLines t) = (dropStart? word t).map unixLines := by
  cases ht : dropStart? word t with
  | some rest =>
    obtain rfl := dropStart?_eq_some_iff.1 ht
    rw [Option.map_some, dropStart?_eq_some_iff, unixLines_append hreturn]
  | none =>
    rw [Option.map_none, Option.eq_none_iff_forall_ne_some]
    intro u hu
    obtain ⟨rest, rfl, -⟩ := unixLines_eq_append hfeed (dropStart?_eq_some_iff.1 hu)
    rw [dropStart?_eq_some_iff.2 rfl] at ht
    exact nomatch ht

end Text

namespace Json

def Fault.unixLines : Fault → Fault
  | malformed complaint remaining => .malformed complaint (Text.unixLines remaining)
  | hugeInteger digits => .hugeInteger digits
  | tooDeep container => .tooDeep container

def Token.unixLines : Token → Token
  | brokenText fault => .brokenText fault.unixLines
  | token => token

def Placed.unixLines (p : Placed) : Placed := ⟨Text.unixLines p.remaining, p.token.unixLines⟩

/-! ### Numbers and words -/

theorem wholePart?_unixLines (t : Text) :
    wholePart? (Text.unixLines t) = (wholePart? t).map (Prod.map id Text.unixLines) := by
  rcases t.line_cases with rfl | ⟨c, rest, rfl, -, hu⟩ | ⟨rest, behind, rfl, hu, -⟩
  · rfl
  · rw [hu]
    simp only [wholePart?]
    split
    · rfl
    · split
      · rw [Text.takeWhile_unixLines rfl rfl, Text.dropWhile_unixLines rfl rfl]
        rfl
      · rfl
  · rw [hu]
    rfl

theorem fractionPart_of_ne {c : CodePoint} (hc : c ≠ '.') (rest : Text) :
    fractionPart (c :: rest) = ([], c :: rest) := by
  rw [fractionPart]
  rintro d t ⟨⟩
  exact hc rfl

theorem fractionPart_unixLines (t : Text) :
    fractionPart (Text.unixLines t) = Prod.map id Text.unixLines (fractionPart t) := by
  rcases t.line_cases with rfl | ⟨c, rest, rfl, hc, hu⟩ | ⟨rest, behind, rfl, hu, -⟩
  · rfl
  · by_cases hpoint : c = .scalar '.'
    · subst hpoint
      rw [hu]
      rcases Text.line_cases rest with rfl | ⟨d, rest, rfl, -, hd⟩ | ⟨rest, behind, rfl, hd, -⟩
      · rfl
      · rw [hd]
        simp only [fractionPart]
        split
        · rw [Text.takeWhile_unixLines rfl rfl, Text.dropWhile_unixLines rfl rfl]
          rfl
        · rw [← hd, ← hu]
          rfl
      · rw [hd, fractionPart, if_neg (by decide), fractionPart, if_neg (by decide), ← hd, ← hu]
        rfl
    · rw [fractionPart_of_ne hpoint, hu, fractionPart_of_ne hpoint, ← hu]
      rfl
  · rw [fractionPart_of_ne (by decide), hu, fractionPart_of_ne (by decide), ← hu]
    rfl

theorem exponentSign_of_ne {c : CodePoint} (hminus : c ≠ '-') (hplus : c ≠ '+') (rest : Text) :
    exponentSign (c :: rest) = (false, c :: rest) := by
  rw [exponentSign]
  · rintro t ⟨⟩
    exact hminus rfl
  · rintro t ⟨⟩
    exact hplus rfl

theorem exponentSign_unixLines (t : Text) :
    exponentSign (Text.unixLines t) = Prod.map id Text.unixLines (exponentSign t) := by
  rcases t.line_cases with rfl | ⟨c, rest, rfl, -, hu⟩ | ⟨rest, behind, rfl, hu, -⟩
  · rfl
  · rw [hu]
    by_cases hminus : c = .scalar '-'
    · subst hminus
      rfl
    · by_cases hplus : c = .scalar '+'
      · subst hplus
        rfl
      · rw [exponentSign_of_ne hminus hplus, exponentSign_of_ne hminus hplus, ← hu]
        rfl
  · rw [exponentSign_of_ne (by decide) (by decide), hu,
      exponentSign_of_ne (by decide) (by decide), ← hu]
    rfl

theorem exponentPart?_unixLines (t : Text) :
    exponentPart? (Text.unixLines t) = (exponentPart? t).map (Prod.map id Text.unixLines) := by
  rcases t.line_cases with rfl | ⟨c, rest, rfl, -, hu⟩ | ⟨rest, behind, rfl, hu, -⟩
  · rfl
  · rw [hu]
    simp only [exponentPart?]
    split
    · rw [exponentSign_unixLines]
      simp only [Prod.map, id, Text.takeWhile_unixLines (p := CodePoint.isAsciiDigit) rfl rfl,
        Text.dropWhile_unixLines (p := CodePoint.isAsciiDigit) rfl rfl]
      split <;> rfl
    · rfl
  · rw [hu]
    rfl

theorem unsigned?_unixLines (negative : Bool) (t : Text) :
    unsigned? negative (Text.unixLines t) =
      (unsigned? negative t).map (Prod.map Token.unixLines Text.unixLines) := by
  simp only [unsigned?, wholePart?_unixLines]
  rcases wholePart? t with _ | ⟨whole, rest⟩
  · rfl
  · simp only [Option.map_some, Prod.map, id, Option.bind_eq_bind, Option.bind_some,
      fractionPart_unixLines, exponentPart?_unixLines]
    rcases exponentPart? (fractionPart rest).2 with _ | ⟨e, behind⟩
    · simp only [Option.map_none]
      split
      · split <;> rfl
      · rfl
    · rfl

theorem number?_of_ne {c : CodePoint} (hc : c ≠ '-') (rest : Text) :
    number? (c :: rest) = unsigned? false (c :: rest) := by
  rw [number?]
  rintro t ⟨⟩
  exact hc rfl

theorem number?_unixLines (t : Text) :
    number? (Text.unixLines t) = (number? t).map (Prod.map Token.unixLines Text.unixLines) := by
  rcases t.line_cases with rfl | ⟨c, rest, rfl, -, hu⟩ | ⟨rest, behind, rfl, hu, -⟩
  · rfl
  · by_cases hminus : c = .scalar '-'
    · subst hminus
      rw [hu]
      exact unsigned?_unixLines true rest
    · rw [number?_of_ne hminus, ← unsigned?_unixLines, hu, number?_of_ne hminus]
  · rw [number?_of_ne (by decide), ← unsigned?_unixLines, hu, number?_of_ne (by decide)]

theorem word?_unixLines (t : Text) :
    word? (Text.unixLines t) = (word? t).map (Prod.map Token.unixLines Text.unixLines) := by
  have hinline : ∀ entry ∈ wordScalars,
      CodePoint.scalar '\r' ∉ entry.1 ∧ CodePoint.scalar '\n' ∉ entry.1 := by
    decide
  unfold word?
  generalize wordScalars = words at hinline ⊢
  induction words with
  | nil => rfl
  | cons entry rest ih =>
    rw [List.forall_mem_cons] at hinline
    obtain ⟨⟨hreturn, hfeed⟩, hrest⟩ := hinline
    simp only [List.findSome?_cons, Text.dropStart?_unixLines hreturn hfeed, ih hrest]
    cases Text.dropStart? entry.1 t with
    | none => rfl
    | some behind => rfl

/-! ### Text literals -/

def hexRow? : Nat → Nat → Text → Option (Nat × Text)
  | 0, n, t => some (n, t)
  | _ + 1, _, [] => none
  | k + 1, n, c :: rest =>
    match c.hexValue? with
    | none => none
    | some v => hexRow? k (n * 16 + v) rest

/-- The number of four hexadecimal digits, and what follows, which is not nothing. -/
def codeEscape? (t : Text) : Option (Nat × Text) := (hexRow? 4 0 t).filter fun r => !r.2.isEmpty

theorem codeEscape?_of_five (a b c d e : CodePoint) (rest : Text) :
    codeEscape? (a :: b :: c :: d :: e :: rest) =
      (hexNumber? a b c d).map fun n => (n, e :: rest) := by
  simp only [codeEscape?, hexRow?, hexNumber?]
  cases a.hexValue? with
  | none => rfl
  | some na =>
    cases b.hexValue? with
    | none => rfl
    | some nb =>
      cases c.hexValue? with
      | none => rfl
      | some nc =>
        cases d.hexValue? with
        | none => rfl
        | some nd => simp

theorem length_of_hexRow? {k n m : Nat} {t rest : Text} (h : hexRow? k n t = some (m, rest)) :
    t.length = rest.length + k := by
  induction k generalizing n t with
  | zero =>
    cases h
    rfl
  | succ k ih =>
    rcases t with _ | ⟨c, t⟩
    · exact nomatch h
    · simp only [hexRow?] at h
      cases hc : c.hexValue? with
      | none =>
        rw [hc] at h
        exact nomatch h
      | some v =>
        rw [hc] at h
        rw [List.length_cons, ih h, Nat.add_assoc]

theorem codeEscape?_of_short {t : Text} (h : t.length < 5) : codeEscape? t = none := by
  unfold codeEscape?
  cases hrow : hexRow? 4 0 t with
  | none => rfl
  | some r =>
    have hlength := length_of_hexRow? hrow
    have hnil : r.2 = [] := List.eq_nil_of_length_eq_zero (by omega)
    rw [Option.filter_some, hnil]
    rfl

theorem length_of_codeEscape? {t rest : Text} {n : Nat} (h : codeEscape? t = some (n, rest)) :
    t.length = rest.length + 4 := by
  obtain ⟨hrow, -⟩ := Option.filter_eq_some_iff.1 h
  exact length_of_hexRow? hrow

theorem textFrom_codeEscape (start : Text) (high : Option Nat) (done t : Text) :
    textFrom start high done (.scalar '\\' :: .scalar 'u' :: t) =
      match codeEscape? t with
      | none => .error (.malformed .badCodeEscape (.scalar 'u' :: t))
      | some (n, rest) =>
        match high, isLowSurrogate n with
        | some h, true => textFrom start none (unit (pairNumber h n) :: done.tail) rest
        | _, _ =>
          textFrom start (if isHighSurrogate n then some n else none) (unit n :: done) rest := by
  rcases t with _ | ⟨a, _ | ⟨b, _ | ⟨c, _ | ⟨d, _ | ⟨e, rest⟩⟩⟩⟩⟩
  case cons.cons.cons.cons.cons =>
    rw [codeEscape?_of_five, textFrom]
    cases hexNumber? a b c d <;> rfl
  all_goals
    rw [codeEscape?_of_short (by simp)]
    rfl

theorem hexRow?_unixLines (k n : Nat) (t : Text) :
    hexRow? k n (Text.unixLines t) = (hexRow? k n t).map (Prod.map id Text.unixLines) := by
  induction k generalizing n t with
  | zero => rfl
  | succ k ih =>
    rcases t.line_cases with rfl | ⟨c, rest, rfl, -, hu⟩ | ⟨rest, behind, rfl, hu, -⟩
    · rfl
    · rw [hu]
      simp only [hexRow?]
      cases c.hexValue? with
      | none => rfl
      | some v => exact ih (n * 16 + v) rest
    · rw [hu]
      rfl

theorem isEmpty_unixLines (t : Text) : (Text.unixLines t).isEmpty = t.isEmpty := by
  rcases t.line_cases with rfl | ⟨c, rest, rfl, -, hu⟩ | ⟨rest, behind, rfl, hu, -⟩
  · rfl
  · rw [hu]
    rfl
  · rw [hu]
    rfl

theorem codeEscape?_unixLines (t : Text) :
    codeEscape? (Text.unixLines t) = (codeEscape? t).map (Prod.map id Text.unixLines) := by
  unfold codeEscape?
  rw [hexRow?_unixLines]
  rcases hexRow? 4 0 t with _ | ⟨n, rest⟩
  · rfl
  · simp only [Option.map_some, Option.filter_some, Prod.map, isEmpty_unixLines]
    split <;> rfl

section

variable (start : Text) (high : Option Nat) (done : Text)

theorem textFrom_escape {c : CodePoint} (hc : c ≠ 'u') (rest : Text) :
    textFrom start high done (.scalar '\\' :: c :: rest) =
      match escaped? c with
      | some d => textFrom start none (d :: done) rest
      | none => .error (.malformed .badEscape (.scalar '\\' :: c :: rest)) := by
  -- the sixth equation asks that no escape of a number comes, which is one that begins with `u`
  refine textFrom.eq_6 start high done c rest ?_ hc
  intro _ _ _ _ _ _ h _
  exact hc h

theorem textFrom_plain {c : CodePoint} (hquote : c ≠ '"') (hbackslash : c ≠ '\\') (rest : Text) :
    textFrom start high done (c :: rest) =
      if c.code < 0x20 then .error (.malformed .controlInText (c :: rest))
      else textFrom start none (c :: done) rest := by
  rw [textFrom]
  · exact hquote
  · intro h _
    exact hbackslash h
  · intro _ _ _ _ _ _ h _
    exact hbackslash h
  · intro _ h _
    exact hbackslash h
  · intro _ _ h _
    exact hbackslash h

def unixRead : Except Fault (Text × Text) → Except Fault (Text × Text)
  | .ok (t, rest) => .ok (t, Text.unixLines rest)
  | .error fault => .error fault.unixLines

/-- One escape of a text literal, where what follows it is read alike. -/
theorem textFrom_backslash {rest : Text}
    (ih : ∀ high done (t : Text), t.length ≤ rest.length →
      textFrom (Text.unixLines start) high done (Text.unixLines t) =
        unixRead (textFrom start high done t)) :
    textFrom (Text.unixLines start) high done (.scalar '\\' :: Text.unixLines rest) =
      unixRead (textFrom start high done (.scalar '\\' :: rest)) := by
  rcases rest.line_cases with rfl | ⟨c, rest, rfl, -, hu⟩ | ⟨rest, behind, rfl, hu, -⟩
  · rfl
  · -- the digits of a number escape are no line ends, and what is behind them is read alike
    by_cases hcode : c = .scalar 'u'
    · subst hcode
      rw [hu, textFrom_codeEscape, textFrom_codeEscape, codeEscape?_unixLines]
      cases hescape : codeEscape? rest with
      | none =>
        rw [← hu]
        rfl
      | some r =>
        obtain ⟨n, behind⟩ := r
        have hshort : behind.length ≤ (CodePoint.scalar 'u' :: rest).length := by
          have hlength := length_of_codeEscape? hescape
          rw [List.length_cons]
          omega
        dsimp only [Option.map_some, Prod.map, id]
        split
        · exact ih _ _ _ hshort
        · exact ih _ _ _ hshort
    · rw [hu, textFrom_escape _ _ _ hcode, textFrom_escape _ _ _ hcode]
      cases escaped? c with
      | none =>
        rw [← hu]
        rfl
      | some d => exact ih _ _ _ (Nat.le_succ _)
  · rw [hu, textFrom_escape _ _ _ (by decide), textFrom_escape _ _ _ (by decide), ← hu]
    rfl

/-- Text literals have no line ends in them, whichever way these are spelled. -/
theorem textFrom_unixLines (t : Text) :
    textFrom (Text.unixLines start) high done (Text.unixLines t) =
      unixRead (textFrom start high done t) := by
  induction hlength : t.length using Nat.strongRecOn generalizing high done t with
  | _ length ih =>
    rcases t.line_cases with rfl | ⟨c, rest, rfl, hc, hu⟩ | ⟨rest, behind, rfl, hu, -⟩
    · rfl
    · have hrest : ∀ high done (t : Text), t.length ≤ rest.length →
          textFrom (Text.unixLines start) high done (Text.unixLines t) =
            unixRead (textFrom start high done t) := by
        intro high done t ht
        exact ih t.length (by rw [← hlength, List.length_cons]; omega) high done t rfl
      rw [hu]
      by_cases hquote : c = .scalar '"'
      · subst hquote
        rfl
      · by_cases hbackslash : c = .scalar '\\'
        · subst hbackslash
          exact textFrom_backslash start high done hrest
        · rw [textFrom_plain _ _ _ hquote hbackslash, textFrom_plain _ _ _ hquote hbackslash]
          split
          · rw [← hu]
            rfl
          · exact hrest _ _ _ (Nat.le_refl _)
    · rw [hu, textFrom_plain _ _ _ (by decide) (by decide), if_pos (by decide),
        textFrom_plain _ _ _ (by decide) (by decide), if_pos (by decide), ← hu]
      rfl

end

/-! ### Tokens -/

theorem nextToken_unixLines {c : CodePoint} (hc : c ≠ '\r') (rest : Text) :
    nextToken c (Text.unixLines rest) =
      Prod.map Token.unixLines (Option.map Text.unixLines) (nextToken c rest) := by
  have hwhole : c :: Text.unixLines rest = Text.unixLines (c :: rest) :=
    (Text.unixLines_cons hc rest).symm
  have hpunctuation : ∀ token, punctuation? c = some token → token.unixLines = token := by
    intro token htoken
    cases token with
    | brokenText fault =>
      unfold punctuation? at htoken
      split_ifs at htoken <;> cases htoken
    | _ => rfl
  unfold nextToken
  cases hp : punctuation? c with
  | some token =>
    dsimp only [Prod.map]
    rw [hpunctuation token hp]
    rfl
  | none =>
    dsimp only
    split
    · rw [hwhole, textFrom_unixLines]
      rcases textFrom (c :: rest) none [] rest with fault | ⟨t, behind⟩
      · rfl
      · rfl
    · rw [hwhole, word?_unixLines, number?_unixLines]
      rcases word? (c :: rest) with _ | ⟨token, behind⟩
      · rcases number? (c :: rest) with _ | ⟨token, behind⟩
        · rfl
        · rfl
      · rfl

/-- White space makes no difference to what follows it. -/
theorem tokens_of_isSpace {c : CodePoint} (hc : isSpace c = true) (rest : Text) :
    tokens (c :: rest) = tokens rest := by
  rw [tokens_cons, if_pos hc]

/-- **The tokens are the same whichever way line ends are spelled.** -/
theorem tokens_unixLines (t : Text) :
    tokens (Text.unixLines t) = (tokens t).map Placed.unixLines := by
  induction hlength : t.length using Nat.strongRecOn generalizing t with
  | _ length ih =>
    rcases t.line_cases with rfl | ⟨c, rest, rfl, hc, hu⟩ | ⟨rest, behind, rfl, hu, hbehind⟩
    · simp [Text.unixLines, tokens]
    · have hrest : rest.length < length := by simp [← hlength]
      rw [hu, tokens_cons, tokens_cons]
      split
      · exact ih _ hrest rest rfl
      · rw [nextToken_unixLines hc]
        rcases hnext : nextToken c rest with ⟨token, _ | behind⟩
        · simp [Placed.unixLines, hu]
        · have hshort := length_le_of_nextToken hnext
          simp only [Prod.map, Option.map_some, List.map_cons,
            ih _ (Nat.lt_of_le_of_lt hshort hrest) behind rfl, Placed.unixLines, hu]
    · -- a line feed behind the carriage return is white space, so to pass it over changes no token
      have hskip : tokens rest = tokens behind := by
        rcases hbehind with rfl | rfl
        · rfl
        · exact tokens_of_isSpace rfl behind
      have hshort : behind.length < length := by
        rcases hbehind with rfl | rfl
        · simp [← hlength]
        · simp only [← hlength, List.length_cons]
          omega
      rw [hu, tokens_of_isSpace rfl, tokens_of_isSpace rfl, hskip]
      exact ih _ hshort behind rfl

/-! ### Reading -/

namespace Stage

theorem beginValue_unixLines (stack : List Frame) (token : Token) :
    beginValue stack token.unixLines = (beginValue stack token).mapError Fault.unixLines := by
  cases token with
  | openBrace =>
    simp only [Token.unixLines, beginValue, enter]
    split <;> rfl
  | openBracket =>
    simp only [Token.unixLines, beginValue, enter]
    split <;> rfl
  | _ => rfl

theorem beginField_unixLines (stack : List Frame) (fields : List (Text × Json)) (token : Token) :
    beginField stack fields token.unixLines =
      (beginField stack fields token).mapError Fault.unixLines := by
  cases token <;> rfl

theorem next_unixLines (closing : Closing) (stage : Stage) (token : Token) :
    stage.next closing token.unixLines = (stage.next closing token).mapError Fault.unixLines := by
  cases stage with
  | value stack => exact beginValue_unixLines stack token
  | firstItem stack =>
    cases token with
    | openBrace => exact beginValue_unixLines (.array [] :: stack) .openBrace
    | openBracket => exact beginValue_unixLines (.array [] :: stack) .openBracket
    | _ => rfl
  | firstName stack =>
    cases token <;> rfl
  | name stack fields => exact beginField_unixLines stack fields token
  | colon stack fields n => cases token <;> rfl
  | after stack v =>
    rcases stack with _ | ⟨frame, stack⟩
    · cases token <;> rfl
    · cases frame <;> cases token <;> rfl

theorem finish_unixLines (closing : Closing) (stage : Stage) (ps : List Placed) :
    stage.finish closing (ps.map Placed.unixLines) =
      (stage.finish closing ps).mapError Fault.unixLines := by
  induction ps generalizing stage with
  | nil =>
    cases stage with
    | after stack v => cases stack <;> rfl
    | _ => rfl
  | cons p ps ih =>
    simp only [List.map_cons, finish, Placed.unixLines, next_unixLines]
    cases stage.next closing p.token with
    | error fault => rfl
    | ok behind =>
      cases behind with
      | none => rfl
      | some stage => exact ih stage

end Stage

theorem head?_unixLines {c : CodePoint} (hreturn : c ≠ '\r') (hfeed : c ≠ '\n') (t : Text) :
    (Text.unixLines t).head? = some c ↔ t.head? = some c := by
  rcases t.line_cases with rfl | ⟨d, rest, rfl, -, hu⟩ | ⟨rest, behind, rfl, hu, -⟩
  · rfl
  · rw [hu]
    rfl
  · rw [hu, List.head?_cons, List.head?_cons, Option.some.injEq, Option.some.injEq]
    exact ⟨fun h => absurd h.symm hfeed, fun h => absurd h.symm hreturn⟩

/-- **Reading comes to the same value, or to the same fault.** -/
theorem read_unixLines (t : Text) :
    read (Text.unixLines t) = (read t).mapError Fault.unixLines := by
  unfold read
  by_cases hmark : t.head? = some byteOrderMark
  · rw [if_pos hmark, if_pos ((head?_unixLines (by decide) (by decide) t).2 hmark)]
    rfl
  · rw [if_neg hmark, if_neg (mt (head?_unixLines (by decide) (by decide) t).1 hmark), ofTokens,
      tokens_unixLines, Stage.finish_unixLines]
    rfl

end Json

end Ambient
