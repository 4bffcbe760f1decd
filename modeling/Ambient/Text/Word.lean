/-
  Ambient/Text/Word.lean
  ======================
  **Word characters, decimal digits and word boundaries.**

  A word character is a letter, a digit or numeral of any script, or the underscore.  A decimal
  digit is one of the digits 0 to 9 of any script.  Between two neighbours in a text, and at its
  two ends, there is a word boundary where one side is a word character and the other is not.
-/
import Ambient.Text.Basic
import Ambient.Text.WordTable

namespace Ambient

namespace CodePoint

/-- Letters, digits and numerals of every script, and the underscore. -/
def isWord (c : CodePoint) : Bool :=
  if c.code < 0x80 then c.isAsciiDigit || c.isAsciiUpper || c.isAsciiLower || c == '_'
  else Span.anyHolds wordSpans c.code

def isDecimalDigit (c : CodePoint) : Bool :=
  if c.code < 0x80 then c.isAsciiDigit else Span.anyHolds decimalSpans c.code

def decimalValue? (c : CodePoint) : Option Nat :=
  if c.code < 0x80 then (if c.isAsciiDigit then some c.digitValue else none)
  else (decimalSpans.find? fun s => s.holds c.code).map fun s => (c.code - s.first) % 10

end CodePoint

def Text.startsWord : Text → Bool
  | [] => false
  | c :: _ => c.isWord

end Ambient
