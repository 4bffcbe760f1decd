/-
  Ambient/Text/Quoted.lean
  ========================
  **Texts shown in quotes.**

  Messages show a text they cannot trust (a path, the name of an item) between quotes, so that
  every code point of it can be told apart.  The quotes are single ones, unless the text has a
  single quote and no double one.  A quote of that kind and a backslash get a backslash in
  front; tab, line feed and carriage return are shown by their letters; every other code point
  that has no form in print is shown by its number, in two, four or eight hexadecimal digits.
-/
import Ambient.Text.Basic
import Ambient.Text.PrintTable

namespace Ambient

def CodePoint.isPrintable (c : CodePoint) : Bool :=
  if c.code < 0x80 then 0x20 ≤ c.code && c.code < 0x7F
  else !Span.anyHolds unprintableSpans c.code

namespace Text

def numbered (c : CodePoint) : Text :=
  if c.code < 0x100 then "\\x" ++ hexDigits 2 c.code
  else if c.code < 0x10000 then "\\u" ++ hexDigits 4 c.code
  else "\\U" ++ hexDigits 8 c.code

def quotedPoint (mark : Char) (c : CodePoint) : Text :=
  if c = mark ∨ c = '\\' then [.scalar '\\', c]
  else if c = '\t' then "\\t"
  else if c = '\n' then "\\n"
  else if c = '\r' then "\\r"
  else if c.isPrintable then [c]
  else numbered c

/-- The kind of quotes that a text is shown in. -/
def quoteMark (t : Text) : Char :=
  if t.contains (.scalar '\'') && !t.contains (.scalar '"') then '"' else '\''

def quoted (t : Text) : Text :=
  let mark := quoteMark t
  .scalar mark :: t.flatMap (quotedPoint mark) ++ [.scalar mark]

end Text

end Ambient
