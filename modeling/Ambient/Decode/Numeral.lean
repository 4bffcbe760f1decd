/-
  Ambient/Decode/Numeral.lean
  ===========================
  **Integers that are written as a text.**

  A plain numeral is a row of digits that begins with no zero, or one zero alone, perhaps with a
  minus sign in front.  It may have any value, but not more than `longestRow` digits.

  Numerals that people write are often not plain, so a text that is no plain numeral is made tidy
  and tried once more.  White space around it, a plus sign, zeros in front, a fraction of nothing
  but zeros, and single underscores inside are taken away; the zeros in front may have underscores
  among them, and a minus sign may stand behind them.
-/
import Ambient.Text.Blank

namespace Ambient

inductive Numeral where
  | integer (n : Int)
  | oversize
  | unread
deriving DecidableEq, Repr

namespace Numeral

/-! ### Plain numerals -/

def longestRow : Nat := 4300

def opposite : Numeral → Numeral
  | integer n => integer (-n)
  | r => r

/-- What a text is as a plain numeral without a sign.  Too many digits rule it out as a numeral
    whatever comes behind them. -/
def plainRow : Text → Numeral
  | [] => unread
  | c :: rest =>
    if c = '0' then (if rest.isEmpty then integer 0 else unread)
    else
      let row := (c :: rest).takeWhile CodePoint.isAsciiDigit
      if longestRow < row.length then oversize
      else if row.isEmpty || row.length != rest.length + 1 then unread
      else integer (Text.digitsValue row)

def plain : Text → Numeral
  | .scalar '-' :: rest => (plainRow rest).opposite
  | t => plainRow t

/-! ### Tidy numerals -/

/-- Whether a code point is white space around a numeral: any blank but the information
    separators. -/
def isSpace (c : CodePoint) : Bool := c.isBlank && !(0x1C ≤ c.code && c.code ≤ 0x1F)

def trimmed (t : Text) : Text := ((t.dropWhile isSpace).reverse.dropWhile isSpace).reverse

/-- What a text behind a zero is without further zeros and the underscores among them, of which
    the last one stays if nothing or a point comes behind it; `last` is the one in front of the
    text. -/
def behindZero (last : CodePoint) : Text → Option Text
  | [] => some [last]
  | c :: rest =>
    if c = '0' || c = '_' then behindZero c rest
    else if c.isAsciiDigit || c = '-' then some (c :: rest)
    else if c = '.' then some (last :: c :: rest)
    else none

def withoutZeros : Text → Option Text
  | [] => none
  | c :: rest =>
    if c = '0' then behindZero c rest
    else if c.isAsciiDigit then some (c :: rest)
    else none

def withoutFront : Text → Option Text
  | .scalar '+' :: rest => withoutZeros rest
  | .scalar '-' :: rest => (withoutZeros rest).map fun t => .scalar '-' :: t
  | t => withoutZeros t

def withoutFraction (t : Text) : Text :=
  let whole := t.takeWhile fun (c : CodePoint) => c != .scalar '.'
  let fraction := (t.drop whole.length).tail
  if !fraction.isEmpty && fraction.all (fun (c : CodePoint) => c = '0') then whole else t

/-- Whether all underscores of a text stand alone and inside it. -/
def hasInnerUnderscores (t : Text) : Bool :=
  t.head? != some (.scalar '_') && t.getLast? != some (.scalar '_') &&
    !Text.mentions ("__") t

def withoutUnderscores (t : Text) : Text :=
  if hasInnerUnderscores t then t.filter fun (c : CodePoint) => c != .scalar '_' else t

/-- A text made tidy; nothing if there is no numeral in it. -/
def tidied (t : Text) : Option Text :=
  (withoutFront (trimmed t)).map fun t => withoutUnderscores (withoutFraction t)

def ofText (t : Text) : Numeral :=
  match plain t with
  | unread =>
    match (tidied t).map plain with
    | some (integer n) => integer n
    | _ => unread
  | r => r

end Numeral

end Ambient
