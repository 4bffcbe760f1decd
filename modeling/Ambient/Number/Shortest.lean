/-
  Ambient/Number/Shortest.lean
  ============================
  **The shortest decimal of a binary64 number, and how it is laid out.**

  A number is written with the fewest digits that read back as it; of two such decimals the
  nearer one is taken.  For each count of digits only the two neighbours of the number on that
  decimal grid can read back if any decimal on it does, so these two are tried, from one digit
  on; seventeen digits are always enough.

  Where the point goes is a matter of the `Layout`, which is a record of its own.
-/
import Ambient.Number.Binary64
import Ambient.Text.Basic

namespace Ambient

/-- A decimal without a sign: `digits · 10 ^ exponent`. -/
structure Decimal where
  digits : Nat
  exponent : Int
deriving DecidableEq, Repr

namespace Decimal

/-- The least `k` from a first one on with `num / den < 10 ^ k`, if it is among the next few. -/
def pointAbove (num den : Nat) : Nat → Int → Int
  | 0, k => k
  | fuel + 1, k =>
    let below :=
      if 0 ≤ k then num < den * Nat.pow 10 k.toNat else num * Nat.pow 10 (-k).toNat < den
    if below then k else pointAbove num den fuel (k + 1)

/-- The position of the decimal point in the number of so many units: how many digits stand
    before it, or, below 1, how many zeros after it, negated. -/
def pointOf (units : Nat) : Int :=
  let bits : Int := (Nat.log2 units : Int) - 1074
  pointAbove units Binary64.one 8 (bits * 30103 / 100000 - 2)

/-- The two neighbours of a number on the grid of one exponent, the nearer one first, and the
    even one of two that are equally near. -/
def neighbours (units : Nat) (exponent : Int) : List Decimal :=
  let num := if 0 ≤ exponent then units else units * Nat.pow 10 (-exponent).toNat
  let den := if 0 ≤ exponent then Binary64.one * Nat.pow 10 exponent.toNat else Binary64.one
  let low : Decimal := ⟨num / den, exponent⟩
  let high : Decimal := ⟨num / den + 1, exponent⟩
  if Binary64.roundDiv num den = num / den then [low, high] else [high, low]

def shortestFrom (units : Nat) (point : Int) : Nat → Nat → Decimal
  | 0, count => ⟨units, (count : Int)⟩
  | fuel + 1, count =>
    let grid := neighbours units (point - count)
    match grid.find? fun d =>
        Binary64.ofDecimal false d.digits d.exponent = .finite false units with
    | some d => d
    | none => shortestFrom units point fuel (count + 1)

def shortest (units : Nat) : Decimal :=
  if units = 0 then ⟨0, 0⟩ else shortestFrom units (pointOf units) 17 1

end Decimal

/-- How a decimal is laid out: the positions of the point from which on, and up to which, it is
    written without an exponent, and the least count of digits of an exponent. -/
structure NumberLayout where
  leastPoint : Int
  greatestPoint : Int
  exponentDigits : Nat

namespace NumberLayout

/-- The digits of a decimal, without zeros at the end, and the position of its point. -/
def significant (d : Decimal) : List Char × Int :=
  let all := Nat.toDigits 10 d.digits
  let digits := (all.reverse.dropWhile (· = '0')).reverse
  if digits.isEmpty then (['0'], 1) else (digits, all.length + d.exponent)

def exponentText (layout : NumberLayout) (e : Int) : List Char :=
  let digits := Nat.toDigits 10 e.natAbs
  (if e < 0 then '-' else '+') ::
    (List.replicate (layout.exponentDigits - digits.length) '0' ++ digits)

def decimalText (layout : NumberLayout) (d : Decimal) : List Char :=
  let (digits, point) := significant d
  if layout.leastPoint ≤ point ∧ point ≤ layout.greatestPoint then
    if point ≤ 0 then
      ['0', '.'] ++ List.replicate (-point).toNat '0' ++ digits
    else
      let whole := digits.take point.toNat
      let rest := digits.drop point.toNat
      whole ++ List.replicate (point.toNat - whole.length) '0' ++ '.' ::
        (if rest.isEmpty then ['0'] else rest)
  else
    match digits with
    | [] => []
    | [first] => first :: 'e' :: exponentText layout (point - 1)
    | first :: rest => first :: '.' :: rest ++ 'e' :: exponentText layout (point - 1)

def text (layout : NumberLayout) : Binary64 → Text
  | .finite negative units =>
    let body := (decimalText layout (Decimal.shortest units)).map CodePoint.scalar
    if negative then "-" ++ body else body
  | .infinite negative => if negative then "-inf" else "inf"
  | .nan => "nan"

end NumberLayout

end Ambient
