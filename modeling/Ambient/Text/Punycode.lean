/-
  Ambient/Text/Punycode.lean
  ==========================
  **Texts of any script in letters and digits of ASCII.**

  The code points of ASCII stand in front, and behind the last hyphen stands a row of numbers, one
  for each other code point.  In the order of their numbers, and those of one number in the order
  of their places, the code points are put into the text; each number says how many places and
  numbers are passed over from the code point before.

  A number is written in digits to the base of 36, the least one first.  A digit below the
  `threshold` of its place ends the number, so the base of a place is 36 less its threshold; the
  thresholds follow a bias that goes with the size of the last number (`adapted`).
-/
import Ambient.Text.Basic

namespace Ambient.Punycode

def firstCode : Nat := 0x80

def firstBias : Nat := 72

/-! ### Digits -/

/-- The code point of a digit: the letters, and from 26 on the digits of ASCII. -/
def digit (d : Nat) : CodePoint := .scalar (Char.ofNat (if d < 26 then 0x61 + d else 0x16 + d))

def digitValue? (c : CodePoint) : Option Nat :=
  if c.isAsciiLower then some (c.code - 0x61)
  else if c.isAsciiUpper then some (c.code - 0x41)
  else if c.isAsciiDigit then some (c.code - 0x16)
  else none

/-- The least digit that does not end a number, at a place under a bias; the places are counted
    in steps of 36. -/
def threshold (place bias : Nat) : Nat := max 1 (min 26 (place - bias))

theorem threshold_pos (place bias : Nat) : 0 < threshold place bias := by
  unfold threshold; omega

/-- How often a number is divided by 35 until it is at most 455, in steps of 36, and what is left
    of it. -/
def scaled (n : Nat) : Nat × Nat :=
  if 455 < n then ((scaled (n / 35)).1 + 36, (scaled (n / 35)).2) else (0, n)
termination_by n
decreasing_by all_goals omega

/-- The bias behind a number, when a text has some length; the first number of a text counts for
    little. -/
def adapted (n length : Nat) (isFirst : Bool) : Nat :=
  let less := if isFirst then n / 700 else n / 2
  let (places, rest) := scaled (less + less / length)
  places + 36 * rest / (rest + 38)

/-! ### Writing -/

def numberText (bias place n : Nat) : Text :=
  let t := threshold place bias
  if n < t then [digit n]
  else digit (t + (n - t) % (36 - t)) :: numberText bias (place + 36) ((n - t) / (36 - t))
termination_by n
decreasing_by
  have h := threshold_pos place bias
  have := Nat.div_le_self (n - threshold place bias) (36 - threshold place bias)
  omega

/-- How far the writing is: the numbers so far, how much was passed over since the last one, the
    bias of the next one, and how many code points of the text are written. -/
structure Progress where
  numbers : Text
  passed : Nat
  bias : Nat
  written : Nat

/-- The progress behind a code point of the text, while those with some number are written;
    `plain` is how many code points of the text are of ASCII. -/
def Progress.visit (number plain : Nat) (p : Progress) (c : CodePoint) : Progress :=
  if c.code < number then { p with passed := p.passed + 1 }
  else if c.code = number then
    { numbers := p.numbers ++ numberText p.bias 36 p.passed
      passed := 0
      bias := adapted p.passed (p.written + 1) (p.written = plain)
      written := p.written + 1 }
  else p

def Progress.visitAll (t : Text) (plain : Nat) : Nat → List Nat → Progress → Progress
  | _, [], p => p
  | next, number :: rest, p =>
    let passed := p.passed + (number - next) * (p.written + 1)
    let p := t.foldl (visit number plain) { p with passed := passed }
    visitAll t plain (number + 1) rest { p with passed := p.passed + 1 }

def encode (t : Text) : Text :=
  let plain := t.filter fun (c : CodePoint) => c.code < firstCode
  let others := t.filter fun (c : CodePoint) => firstCode ≤ c.code
  let numbers := ((others.map CodePoint.code).mergeSort fun a b => a ≤ b).eraseDups
  let p := Progress.visitAll t plain.length firstCode numbers ⟨[], 0, firstBias, plain.length⟩
  (if plain.isEmpty then [] else plain ++ "-") ++ p.numbers

/-! ### Reading -/

def delta? (bias : Nat) : Nat → Nat → Text → Option (Nat × Text)
  | _, _, [] => none
  | place, weight, c :: rest =>
    match digitValue? c with
    | none => none
    | some d =>
      let t := threshold place bias
      if d < t then some (d * weight, rest)
      else
        (delta? bias (place + 36) (weight * (36 - t)) rest).map fun (n, rest) =>
          (d * weight + n, rest)

theorem length_lt_of_delta? {bias place weight n : Nat} {t rest : Text}
    (h : delta? bias place weight t = some (n, rest)) : rest.length < t.length := by
  induction t generalizing place weight n rest with
  | nil => exact nomatch h
  | cons c t ih =>
    simp only [delta?] at h
    split at h
    · exact nomatch h
    · split at h
      · cases h; simp
      · obtain ⟨⟨m, r⟩, hr, he⟩ := Option.map_eq_some_iff.1 h
        cases he
        have := ih hr
        simp only [List.length_cons]; omega

/-- A text with the code points that numbers stand for put into it; `code` and `place` are those
    from which the next one is counted on. -/
def insertAll (code place bias : Nat) (done numbers : Text) : Option Text :=
  if numbers.isEmpty then some done
  else
    match _hn : delta? bias 36 1 numbers with
    | none => none
    | some (n, rest) =>
      let length := done.length + 1
      let passed := place + n
      match CodePoint.ofCode? (code + passed / length) with
      | none => none
      | some c =>
        let spot := passed % length
        insertAll (code + passed / length) (spot + 1)
          (adapted n length (done.all fun (c : CodePoint) => c.code < firstCode))
          (done.take spot ++ c :: done.drop spot) rest
termination_by numbers.length
decreasing_by exact length_lt_of_delta? _hn

def decode? (t : Text) : Option Text :=
  let front := (t.reverse.dropWhile fun (c : CodePoint) => c != .scalar '-').reverse
  insertAll firstCode 0 firstBias front.dropLast (t.drop front.length)

end Ambient.Punycode
