/-
  Ambient/Decode/Scalar.lean
  ==========================
  **Reading single values, with some leniency.**

  Documentation files are written by hand and by many tools, so a flag may be given as a number
  or a word and a line number as a text.  A `Decoder` reads a JSON value as a value of one type;
  the ones here read texts, flags and integers.  A text that is read as something else than a text
  may hold no surrogate.
-/
import Ambient.Decode.Issue
import Ambient.Decode.Numeral

namespace Ambient

abbrev Decoder (α : Type) := Json → Checked α

namespace Decoder

def text : Decoder Text
  | .text t => .fits t
  | _ => .mismatch .notText

/-! ### Numbers of 64 bits -/

/-- Two to the power of 63, the first integer that does not fit into 64 bits with a sign. -/
def wordBound : Int := 9223372036854775808

def fitsWord (n : Int) : Bool := -wordBound ≤ n && n < wordBound

def wordOf? (x : Binary64) : Option Int :=
  match x.toInt? with
  | some n => if -wordBound < n ∧ n < wordBound then some n else none
  | none => none

/-! ### Flags -/

def offWords : List Text := ["0", "off", "f", "false", "n", "no"]

def onWords : List Text := ["1", "on", "t", "true", "y", "yes"]

def flagOfInteger (n : Int) : Checked Bool :=
  if n = 0 then .fits false
  else if n = 1 then .fits true
  else .mismatch .unreadFlag

/-- A truth value, the numbers 0 and 1, or a word for one of them in any case.  A number beyond
    64 bits is no flag at all. -/
def flag : Decoder Bool
  | .bool b => .fits b
  | .integer n => if fitsWord n then flagOfInteger n else .mismatch .notFlag
  | .number x =>
    match wordOf? x with
    | some n => flagOfInteger n
    | none => .mismatch .notFlag
  | .text t =>
    let word := t.map CodePoint.asciiLower
    if t.hasSurrogate then .mismatch .holdsSurrogate
    else if offWords.contains word then .fits false
    else if onWords.contains word then .fits true
    else .mismatch .unreadFlag
  | _ => .mismatch .notFlag

/-! ### Integers -/

/-- An integer; a truth value as 0 or 1; a number with nothing behind the point, in the range of
    64 bits; or the numeral of an integer. -/
def integer : Decoder Int
  | .integer n => .fits n
  | .bool b => .fits (if b then 1 else 0)
  | .number x =>
    if !x.isFinite then .mismatch .notFinite
    else if x.toInt?.isNone then .mismatch .fractionalInteger
    else
      match wordOf? x with
      | some n => .fits n
      | none => .mismatch .oversizeInteger
  | .text t =>
    if t.hasSurrogate then .mismatch .holdsSurrogate
    else
      match Numeral.ofText t with
      | .integer n => .fits n
      | .oversize => .mismatch .oversizeInteger
      | .unread => .mismatch .unreadInteger
  | _ => .mismatch .notInteger

end Decoder

end Ambient
