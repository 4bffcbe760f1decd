/-
  Ambient/Text/CodePoint.lean
  ===========================
  **Code points, the units that every text is counted in.**

  A documentation file may spell half of a surrogate pair with a `\ud800` escape, and such a text
  is still read, compared and written out again.  So a text cannot be a `String`, whose units are
  Unicode scalar values only.  `CodePoint` adds the 2048 surrogates as a second kind of unit:
  a code point is either a scalar value (a `Char`) or one surrogate.

  The number of a code point is `CodePoint.code`, and `ofCode?` gives the code point back
  (`ofCode?_code`).
-/

namespace Ambient

/-- A unit of text: a Unicode scalar value, or a surrogate that has no partner. -/
inductive CodePoint where
  | scalar (c : Char)
  | surrogate (offset : Fin 2048)
deriving DecidableEq, Repr

namespace CodePoint

instance : Coe Char CodePoint := ⟨scalar⟩

instance : Inhabited CodePoint := ⟨scalar ' '⟩

/-- The first surrogate; the surrogates are the 2048 numbers from here on. -/
def firstSurrogate : Nat := 0xD800

def code : CodePoint → Nat
  | scalar c => c.toNat
  | surrogate k => firstSurrogate + k.val

def ofCode? (n : Nat) : Option CodePoint :=
  if h : firstSurrogate ≤ n ∧ n < firstSurrogate + 2048 then
    some (surrogate ⟨n - firstSurrogate, by omega⟩)
  else if h : n.isValidChar then
    some (scalar (Char.ofNatAux n h))
  else none

def isSurrogate : CodePoint → Bool
  | scalar _ => false
  | surrogate _ => true

def isAsciiDigit : CodePoint → Bool
  | scalar c => c.isDigit
  | surrogate _ => false

def isAsciiUpper : CodePoint → Bool
  | scalar c => c.isUpper
  | surrogate _ => false

def isAsciiLower : CodePoint → Bool
  | scalar c => c.isLower
  | surrogate _ => false

def digitValue (c : CodePoint) : Nat :=
  if c.isAsciiDigit then c.code - '0'.toNat else 0

def hexValue? : CodePoint → Option Nat
  | scalar c =>
    if c.isDigit then some (c.toNat - '0'.toNat)
    else if 'a' ≤ c ∧ c ≤ 'f' then some (c.toNat - 'a'.toNat + 10)
    else if 'A' ≤ c ∧ c ≤ 'F' then some (c.toNat - 'A'.toNat + 10)
    else none
  | surrogate _ => none

def asciiLower : CodePoint → CodePoint
  | scalar c => scalar c.toLower
  | surrogate k => surrogate k

/-! ### Numbers and code points -/

@[simp] theorem code_scalar (c : Char) : (scalar c).code = c.toNat := rfl

@[simp] theorem code_surrogate (k : Fin 2048) :
    (surrogate k).code = firstSurrogate + k.val := rfl

/-- The number of a character lies outside the surrogates. -/
theorem toNat_lt_or_ge (c : Char) :
    c.toNat < firstSurrogate ∨ firstSurrogate + 2048 ≤ c.toNat := by
  have h := c.valid
  simp only [UInt32.isValidChar, Nat.isValidChar] at h
  simp only [Char.toNat, firstSurrogate]
  omega

theorem ofCode?_code (c : CodePoint) : ofCode? c.code = some c := by
  cases c with
  | scalar c =>
    have hs := toNat_lt_or_ge c
    have hv : c.toNat.isValidChar := c.valid
    have hn : ¬ (firstSurrogate ≤ c.toNat ∧ c.toNat < firstSurrogate + 2048) := by omega
    unfold ofCode?
    rw [code_scalar, dif_neg hn, dif_pos hv]
    exact congrArg (fun d => some (scalar d)) (Char.ext (UInt32.toNat_inj.1 rfl))
  | surrogate k =>
    have hk : firstSurrogate ≤ firstSurrogate + k.val ∧
        firstSurrogate + k.val < firstSurrogate + 2048 := by omega
    unfold ofCode?
    rw [code_surrogate, dif_pos hk]
    exact congrArg (fun i => some (surrogate i)) (Fin.ext (Nat.add_sub_cancel_left _ _))

end CodePoint

end Ambient
