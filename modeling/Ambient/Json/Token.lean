/-
  Ambient/Json/Token.lean
  =======================
  **The tokens of a JSON text.**

  A JSON text is first cut into tokens, each with the text from its start on, which tells its
  place.  White space between tokens is a space, a tab, a line feed or a carriage return.  Cutting
  never fails: where no token begins there is an `unknown` one, and a text literal with a fault in
  it is a `brokenText`, which carries the fault.  Both end the list.  Whether a fault matters is
  for the reader to say, since it may want something else at that place.

  A number is read as far as it goes: `1.` is the number 1 before a point that begins no token.
-/
import Ambient.Json.Value

namespace Ambient.Json

inductive Complaint where
  | wantsValue
  | wantsName
  | wantsColon
  | wantsComma
  | extraText
  | unclosedText
  | controlInText
  | badEscape
  | badCodeEscape
  | byteOrderMark
deriving DecidableEq, Repr

inductive Container where
  | array
  | object
deriving DecidableEq, Repr

/-- Why a text is no JSON: a complaint about the place from which some text remains, an integer
    with more digits than are read, or a container inside more others than are read. -/
inductive Fault where
  | malformed (complaint : Complaint) (remaining : Text)
  | hugeInteger (digits : Nat)
  | tooDeep (container : Container)
deriving DecidableEq, Repr

def mostDigits : Nat := 4300

inductive Token where
  | openBrace
  | closeBrace
  | openBracket
  | closeBracket
  | colon
  | comma
  | text (t : Text)
  | scalar (v : Json)
  | brokenText (fault : Fault)
  | hugeInteger (digits : Nat)
  | unknown

/-- A token and the text from its start on. -/
structure Placed where
  remaining : Text
  token : Token

def isSpace (c : CodePoint) : Bool := c = ' ' || c = '\n' || c = '\t' || c = '\r'

/-! ### Text literals -/

def escaped? (c : CodePoint) : Option CodePoint :=
  if c = '"' ∨ c = '\\' ∨ c = '/' then some c
  else if c = 'b' then some '\x08'
  else if c = 'f' then some '\x0c'
  else if c = 'n' then some '\n'
  else if c = 'r' then some '\r'
  else if c = 't' then some '\t'
  else none

def hexNumber? (a b c d : CodePoint) : Option Nat := do
  return (((← a.hexValue?) * 16 + (← b.hexValue?)) * 16 + (← c.hexValue?)) * 16 + (← d.hexValue?)

/-- The code point of a number below 65536. -/
def unit (n : Nat) : CodePoint := (CodePoint.ofCode? n).getD default

def isHighSurrogate (n : Nat) : Bool := 0xD800 ≤ n && n < 0xDC00

def isLowSurrogate (n : Nat) : Bool := 0xDC00 ≤ n && n < 0xE000

def pairNumber (high low : Nat) : Nat := 0x10000 + (high - 0xD800) * 1024 + (low - 0xDC00)

/-- Reads a text literal on behind its opening quote, from which on the text is `start`.  `done`
    holds what is read of it, the last code point first, and `high` the number of that code point
    if an escape gave it and it may begin a pair.  The result has what follows the closing quote.

    The four digits of an escape must have something behind them. -/
def textFrom (start : Text) (high : Option Nat) (done : Text) : Text → Except Fault (Text × Text)
  | [] => .error (.malformed .unclosedText start)
  | .scalar '"' :: rest => .ok (done.reverse, rest)
  | .scalar '\\' :: [] => .error (.malformed .unclosedText start)
  | .scalar '\\' :: .scalar 'u' :: a :: b :: c :: d :: e :: rest =>
    match hexNumber? a b c d with
    | none => .error (.malformed .badCodeEscape (.scalar 'u' :: a :: b :: c :: d :: e :: rest))
    | some n =>
      match high, isLowSurrogate n with
      | some h, true => textFrom start none (unit (pairNumber h n) :: done.tail) (e :: rest)
      | _, _ =>
        textFrom start (if isHighSurrogate n then some n else none) (unit n :: done) (e :: rest)
  | .scalar '\\' :: .scalar 'u' :: rest =>
    .error (.malformed .badCodeEscape (.scalar 'u' :: rest))
  | .scalar '\\' :: c :: rest =>
    match escaped? c with
    | some d => textFrom start none (d :: done) rest
    | none => .error (.malformed .badEscape (.scalar '\\' :: c :: rest))
  | c :: rest =>
    if c.code < 0x20 then .error (.malformed .controlInText (c :: rest))
    else textFrom start none (c :: done) rest

theorem length_le_of_textFrom {start : Text} {high : Option Nat} {done t r rest : Text}
    (h : textFrom start high done t = .ok (r, rest)) : rest.length ≤ t.length := by
  fun_induction textFrom start high done t with
  | case2 => cases h; simp
  | case5 => rename_i ih; have := ih h; simp only [List.length_cons] at this ⊢; omega
  | case6 => rename_i ih; have := ih h; simp only [List.length_cons] at this ⊢; omega
  | case8 => rename_i ih; have := ih h; simp only [List.length_cons]; omega
  | case11 => rename_i ih; have := ih h; simp only [List.length_cons]; omega
  | _ => exact nomatch h

/-! ### Numbers and other scalars -/

/-- The digits of the whole part of a number, and what follows: a zero alone, or a row of digits
    that begins with another digit. -/
def wholePart? : Text → Option (Text × Text)
  | [] => none
  | c :: rest =>
    if c = '0' then some ([c], rest)
    else if c.isAsciiDigit then
      some (c :: rest.takeWhile CodePoint.isAsciiDigit, rest.dropWhile CodePoint.isAsciiDigit)
    else none

/-- The digits behind a point, and what follows; no digits and the text itself if no point with
    a digit behind it comes next. -/
def fractionPart : Text → Text × Text
  | .scalar '.' :: c :: rest =>
    if c.isAsciiDigit then
      (c :: rest.takeWhile CodePoint.isAsciiDigit, rest.dropWhile CodePoint.isAsciiDigit)
    else ([], .scalar '.' :: c :: rest)
  | t => ([], t)

def exponentSign : Text → Bool × Text
  | .scalar '-' :: rest => (true, rest)
  | .scalar '+' :: rest => (false, rest)
  | t => (false, t)

/-- The exponent behind an `e`, and what follows; nothing if no digit comes. -/
def exponentPart? : Text → Option (Int × Text)
  | [] => none
  | c :: rest =>
    if c = 'e' ∨ c = 'E' then
      let (negative, t) := exponentSign rest
      let digits := t.takeWhile CodePoint.isAsciiDigit
      if digits.isEmpty then none
      else
        let n : Int := Text.digitsValue digits
        some (if negative then -n else n, t.dropWhile CodePoint.isAsciiDigit)
    else none

def unsigned? (negative : Bool) (t : Text) : Option (Token × Text) := do
  let (whole, t) ← wholePart? t
  let (fraction, t) := fractionPart t
  match exponentPart? t with
  | some (e, t) =>
    some (.scalar (.number (.ofDecimal negative (Text.digitsValue (whole ++ fraction))
      (e - fraction.length))), t)
  | none =>
    if fraction.isEmpty then
      if mostDigits < whole.length then some (.hugeInteger whole.length, t)
      else
        let n : Int := Text.digitsValue whole
        some (.scalar (.integer (if negative then -n else n)), t)
    else
      some (.scalar (.number (.ofDecimal negative (Text.digitsValue (whole ++ fraction))
        (-(fraction.length : Int)))), t)

def number? : Text → Option (Token × Text)
  | .scalar '-' :: rest => unsigned? true rest
  | t => unsigned? false t

def wordScalars : List (Text × Json) := [
  ("null", .null), ("true", .bool true), ("false", .bool false), ("NaN", .number .nan),
  ("Infinity", .number (.infinite false)), ("-Infinity", .number (.infinite true))]

def word? (t : Text) : Option (Token × Text) :=
  wordScalars.findSome? fun (word, v) => (Text.dropStart? word t).map fun rest => (.scalar v, rest)

/-! ### The list of tokens -/

def punctuation? (c : CodePoint) : Option Token :=
  if c = '\x7b' then some .openBrace
  else if c = '\x7d' then some .closeBrace
  else if c = '[' then some .openBracket
  else if c = ']' then some .closeBracket
  else if c = ':' then some .colon
  else if c = ',' then some .comma
  else none

/-- The token that begins with a code point, and what follows it if the list of tokens goes
    on. -/
def nextToken (c : CodePoint) (rest : Text) : Token × Option Text :=
  match punctuation? c with
  | some token => (token, some rest)
  | none =>
    if c = '"' then
      match textFrom (c :: rest) none [] rest with
      | .ok (t, rest) => (.text t, some rest)
      | .error fault => (.brokenText fault, none)
    else
      match word? (c :: rest) with
      | some (token, rest) => (token, some rest)
      | none =>
        match number? (c :: rest) with
        | some (token, rest) => (token, some rest)
        | none => (.unknown, none)

/-! ### Every token takes something of the text -/

theorem length_lt_of_wholePart? {t whole rest : Text} (h : wholePart? t = some (whole, rest)) :
    rest.length < t.length := by
  cases t with
  | nil => exact nomatch h
  | cons c t =>
    simp only [wholePart?] at h
    split at h
    · cases h; simp
    · split at h
      · cases h
        have := (List.dropWhile_suffix CodePoint.isAsciiDigit (l := t)).length_le
        simp only [List.length_cons]; omega
      · exact nomatch h

theorem length_fractionPart_le (t : Text) : (fractionPart t).2.length ≤ t.length := by
  unfold fractionPart
  split
  · next c rest =>
    split
    · have := (List.dropWhile_suffix CodePoint.isAsciiDigit (l := rest)).length_le
      simp only [List.length_cons]; omega
    · exact Nat.le_refl _
  · exact Nat.le_refl _

theorem length_exponentSign_le (t : Text) : (exponentSign t).2.length ≤ t.length := by
  unfold exponentSign
  split <;> simp

theorem length_le_of_exponentPart? {t rest : Text} {e : Int}
    (h : exponentPart? t = some (e, rest)) : rest.length ≤ t.length := by
  cases t with
  | nil => exact nomatch h
  | cons c t =>
    simp only [exponentPart?] at h
    split at h
    · split at h
      · exact nomatch h
      · cases h
        have h1 :=
          (List.dropWhile_suffix CodePoint.isAsciiDigit (l := (exponentSign t).2)).length_le
        have h2 := length_exponentSign_le t
        simp only [List.length_cons]; omega
    · exact nomatch h

theorem length_lt_of_unsigned? {negative : Bool} {t rest : Text} {token : Token}
    (h : unsigned? negative t = some (token, rest)) : rest.length < t.length := by
  simp only [unsigned?, Option.bind_eq_bind, Option.bind_eq_some_iff, Prod.exists] at h
  obtain ⟨whole, t₁, hw, h⟩ := h
  have h1 := length_lt_of_wholePart? hw
  have h2 := length_fractionPart_le t₁
  split at h
  · next e t₂ he =>
    have h3 := length_le_of_exponentPart? he
    cases h
    omega
  · split at h
    · split at h <;> (cases h; omega)
    · cases h; omega

theorem length_lt_of_number? {t rest : Text} {token : Token}
    (h : number? t = some (token, rest)) : rest.length < t.length := by
  unfold number? at h
  split at h
  · have := length_lt_of_unsigned? h
    simp only [List.length_cons]; omega
  · exact length_lt_of_unsigned? h

theorem length_lt_of_word? {t rest : Text} {token : Token}
    (h : word? t = some (token, rest)) : rest.length < t.length := by
  obtain ⟨⟨word, v⟩, hm, h⟩ := List.exists_of_findSome?_eq_some h
  simp only [Option.map_eq_some_iff, Text.dropStart?] at h
  obtain ⟨r, hr, h⟩ := h
  split at hr
  · next hp =>
    have hw : 0 < word.length := by
      revert hm
      simp only [wordScalars, List.mem_cons, Prod.mk.injEq, List.not_mem_nil, or_false]
      rintro (⟨rfl, -⟩ | ⟨rfl, -⟩ | ⟨rfl, -⟩ | ⟨rfl, -⟩ | ⟨rfl, -⟩ | ⟨rfl, -⟩) <;> decide
    have hl := (List.isPrefixOf_iff_prefix.1 hp).length_le
    cases h; cases hr
    simp only [List.length_drop]; omega
  · exact nomatch hr

/-- What follows a token is shorter than what begins with it. -/
theorem length_le_of_nextToken {c : CodePoint} {t rest : Text} {token : Token}
    (h : nextToken c t = (token, some rest)) : rest.length ≤ t.length := by
  simp only [nextToken] at h
  split at h
  · cases h; exact Nat.le_refl _
  · split at h
    · split at h
      · next ht => cases h; exact length_le_of_textFrom ht
      · exact nomatch h
    · split at h
      · next hw =>
        cases h
        have := length_lt_of_word? hw
        simp only [List.length_cons] at this; omega
      · split at h
        · next hn =>
          cases h
          have := length_lt_of_number? hn
          simp only [List.length_cons] at this; omega
        · exact nomatch h

def tokens (t : Text) : List Placed :=
  match t with
  | [] => []
  | c :: rest =>
    if isSpace c then tokens rest
    else
      match h : nextToken c rest with
      | (token, none) => [⟨c :: rest, token⟩]
      | (token, some after) =>
        have := length_le_of_nextToken h
        ⟨c :: rest, token⟩ :: tokens after
termination_by t.length
decreasing_by all_goals simp_wf <;> omega

theorem tokens_cons (c : CodePoint) (rest : Text) :
    tokens (c :: rest) =
      if isSpace c then tokens rest
      else
        match nextToken c rest with
        | (token, none) => [⟨c :: rest, token⟩]
        | (token, some behind) => ⟨c :: rest, token⟩ :: tokens behind := by
  rw [tokens]
  split
  · rfl
  · split
    · next h => simp only [h]
    · next h => simp only [h]

end Ambient.Json
