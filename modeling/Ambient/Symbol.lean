/-
  Ambient/Symbol.lean
  ===================
  **Names that can be declared.**

  A name can be declared if it is a symbol: a letter, a dollar sign or an underscore, and then
  any number of these and of ASCII digits.  Letters are those of ASCII, and the four code points
  beyond ASCII that are another case of one of them: the capital I with a dot, the small i
  without one, the long s and the Kelvin sign.
-/
import Ambient.Text.Lines

namespace Ambient

/-- The numbers of the letters beyond ASCII that are another case of an ASCII letter. -/
def caseVariantCodes : List Nat := [0x130, 0x131, 0x17F, 0x212A]

def CodePoint.isSymbolLetter (c : CodePoint) : Bool :=
  c.isAsciiUpper || c.isAsciiLower || caseVariantCodes.contains c.code

def CodePoint.isSymbolStart (c : CodePoint) : Bool := c.isSymbolLetter || c = '$' || c = '_'

def CodePoint.isSymbolPart (c : CodePoint) : Bool := c.isSymbolStart || c.isAsciiDigit

/-- Whether a name is a symbol; one line feed at its end does not count. -/
def isSymbol : Text → Bool
  | [] => false
  | c :: rest => c.isSymbolStart && Text.isOver (rest.dropWhile CodePoint.isSymbolPart)

end Ambient
