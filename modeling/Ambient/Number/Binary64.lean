/-
  Ambient/Number/Binary64.lean
  ============================
  **Binary floating-point numbers of 64 bits.**

  Numbers with a point or an exponent in a documentation file are read as binary64 numbers.  Every
  finite one is a whole multiple of 2⁻¹⁰⁷⁴, the least positive one, so a finite number is a sign
  and that multiple.  Reading a decimal rounds the exact value to the nearest binary64 number; a
  tie goes to the even significand, and what rounds to 2¹⁰²⁴ or more is infinite.

  All arithmetic here is on natural numbers, so it is exact.
-/

namespace Ambient

/-- A binary64 number; `finite s n` is `n · 2⁻¹⁰⁷⁴` with the sign minus if `s` holds. -/
inductive Binary64 where
  | finite (negative : Bool) (units : Nat)
  | infinite (negative : Bool)
  | nan
deriving DecidableEq, Repr

namespace Binary64

/-- How many times the least positive number goes into 1. -/
def one : Nat := Nat.pow 2 1074

/-- The quotient rounded to the nearest whole number, a tie to the even one. -/
def roundDiv (num den : Nat) : Nat :=
  let q := num / den
  let r := num % den
  if 2 * r < den then q
  else if den < 2 * r then q + 1
  else if q % 2 = 0 then q else q + 1

/-- The units of the nearest number to a quotient: 53 significant bits at most. -/
def unitsOfRatio (num den : Nat) : Nat :=
  let step := Nat.pow 2 (Nat.log2 (num * one / den) - 52)
  roundDiv (num * one) (den * step) * step

def ofRatio (negative : Bool) (num den : Nat) : Binary64 :=
  let units := unitsOfRatio num den
  if units < Nat.pow 2 1024 * one then finite negative units else infinite negative

/-- The number nearest to `digits · 10 ^ exponent`.  Beyond 310 digits before the point the
    result is infinite, and beyond 330 zeros after it the result is zero, whatever the digits. -/
def ofDecimal (negative : Bool) (digits : Nat) (exponent : Int) : Binary64 :=
  let magnitude := ((Nat.toDigits 10 digits).length : Int) + exponent
  if digits = 0 ∨ magnitude < -330 then finite negative 0
  else if 310 < magnitude then infinite negative
  else if 0 ≤ exponent then ofRatio negative (digits * Nat.pow 10 exponent.toNat) 1
  else ofRatio negative digits (Nat.pow 10 (-exponent).toNat)

def toInt? : Binary64 → Option Int
  | finite negative units =>
    if units % one = 0 then
      some (if negative then -((units / one : Nat) : Int) else ((units / one : Nat) : Int))
    else none
  | infinite _ => none
  | nan => none

def isFinite : Binary64 → Bool
  | finite _ _ => true
  | infinite _ => false
  | nan => false

def isZero : Binary64 → Bool
  | finite _ units => units = 0
  | infinite _ => false
  | nan => false

end Binary64

end Ambient
