/-
  Ambient/Declaration/Literal.lean
  ================================
  **Literals in declarations.**

  A declaration cannot carry a value, but a constant can be declared with a literal type: a text
  in single quotes, a decimal numeral with digits of any script, or a truth value.  Inside the
  quotes a backslash belongs together with the code point behind it, which is no line feed.
  A last line feed behind a literal does not count.

  A text is written as a literal by `quote`, which puts a backslash in front of every backslash
  and single quote in it.
-/
import Ambient.Text.Lines
import Ambient.Text.Word

namespace Ambient

def escapePoint (c : CodePoint) : Text := if c = '\\' ∨ c = '\'' then [.scalar '\\', c] else [c]

def quote (t : Text) : Text := "'" ++ t.flatMap escapePoint ++ "'"

/-- What follows the closing quote of a literal, of which the text goes on behind the opening
    one. -/
def afterQuoted? : Text → Option Text
  | [] => none
  | .scalar '\'' :: rest => some rest
  | .scalar '\\' :: [] => none
  | .scalar '\\' :: c :: rest => if c = '\n' then none else afterQuoted? rest
  | _ :: rest => afterQuoted? rest

/-- What follows the digits that a text begins with, if there is one. -/
def afterDigits? : Text → Option Text
  | [] => none
  | c :: rest =>
    if c.isDecimalDigit then some (rest.dropWhile CodePoint.isDecimalDigit) else none

def dropMinus : Text → Text
  | .scalar '-' :: rest => rest
  | t => t

def isNumeral (t : Text) : Bool :=
  match afterDigits? (dropMinus t) with
  | none => false
  | some (.scalar '.' :: rest) =>
    match afterDigits? rest with
    | none => false
    | some rest => Text.isOver rest
  | some rest => Text.isOver rest

def isQuoted : Text → Bool
  | .scalar '\'' :: rest =>
    match afterQuoted? rest with
    | none => false
    | some rest => Text.isOver rest
  | _ => false

def isTruthValue (t : Text) : Bool :=
  match Text.dropStart? "true" t, Text.dropStart? "false" t with
  | some rest, _ => Text.isOver rest
  | none, some rest => Text.isOver rest
  | none, none => false

/-- Whether a text can be written as a literal type. -/
def isLiteral (t : Text) : Bool := isQuoted t || isNumeral t || isTruthValue t

end Ambient
