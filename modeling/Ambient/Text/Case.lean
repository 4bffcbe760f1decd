/-
  Ambient/Text/Case.lean
  ======================
  **Upper and lower case of whole texts.**

  The upper case of a text is the upper case of its code points one by one; some take several
  code points.  So is the lower case, but for the capital sigma: it becomes the final form of the
  small letter at the end of a word, that is, where the nearest code point before it that is not
  passed over has a case and the nearest one after it has none.
-/
import Ambient.Text.Basic
import Ambient.Text.CaseTable

namespace Ambient

namespace CodePoint

def ofCodes (codes : List Nat) : Text := codes.filterMap ofCode?

/-- One code point in another case: its own sequence, or its place in a row of letters. -/
def mapCase (sequences : List (Nat × List Nat)) (runs : List CaseRun) (c : CodePoint) : Text :=
  match sequences.lookup c.code with
  | some codes => ofCodes codes
  | none =>
    match ofCode? (CaseRun.apply runs c.code) with
    | some d => [d]
    | none => [c]

def upper (c : CodePoint) : Text :=
  if c.code < 0x80 then [if c.isAsciiLower then scalar (Char.ofNat (c.code - 32)) else c]
  else mapCase upperSequences upperRuns c

/-- The lower case of a code point that does not depend on its surroundings. -/
def lower (c : CodePoint) : Text :=
  if c.code < 0x80 then [c.asciiLower] else mapCase lowerSequences lowerRuns c

def isCaseIgnored (c : CodePoint) : Bool := Span.anyHolds ignoredSpans c.code

/-- Whether the code point has a case, among those that are not passed over. -/
def isCased (c : CodePoint) : Bool := Span.anyHolds casedSpans c.code

def capitalSigma : CodePoint := scalar (Char.ofNat 0x3A3)

def smallSigma : CodePoint := scalar (Char.ofNat 0x3C3)

def finalSigma : CodePoint := scalar (Char.ofNat 0x3C2)

end CodePoint

namespace Text

/-- Whether the first code point that is not passed over has a case. -/
def meetsCased : Text → Bool
  | [] => false
  | c :: rest => if c.isCaseIgnored then meetsCased rest else c.isCased

def upper (t : Text) : Text := t.flatMap CodePoint.upper

/-- The lower case of a text that follows the code points `before`, the nearest one first. -/
def lowerAfter (before : Text) : Text → Text
  | [] => []
  | c :: rest =>
    (if c = CodePoint.capitalSigma then
      [if meetsCased before && !meetsCased rest then CodePoint.finalSigma
        else CodePoint.smallSigma]
    else c.lower) ++ lowerAfter (c :: before) rest

def lower (t : Text) : Text := lowerAfter [] t

end Text

end Ambient
