/-
  Ambient/CommandLine/Console.lean
  ================================
  **Lines on a console that knows tags.**

  The console takes `[name]` for a tag, which sets a style and is not shown, and a backslash in
  front of a bracket for the sign that no tag is meant.  Text from outside may hold both, so it is
  protected before it is shown: its tags are shown as they are.  What the protection does not
  cover still counts: a backslash in front of a bracket that begins no tag is not shown, and one
  lone backslash at the end is shown twice.
-/
import Ambient.Text.Quoted

namespace Ambient.Console

def tagMarks : List CodePoint := [.scalar '#', .scalar '/', .scalar '@']

/-- Whether a text from behind a bracket on makes that bracket the begin of a tag: one of the
    letters that may begin it, and a closing bracket before any other opening one. -/
def beginsTag : Text → Bool
  | [] => false
  | c :: rest =>
    (c.isAsciiLower || tagMarks.contains c) &&
      (rest.dropWhile fun c => c != .scalar '[' && c != .scalar ']').head? = some (.scalar ']')

/-- A text without the backslashes that stand in front of brackets which begin no tag. -/
def unescaped : Text → Text
  | [] => []
  | .scalar '\\' :: .scalar '[' :: rest =>
    if beginsTag rest then .scalar '\\' :: .scalar '[' :: unescaped rest
    else .scalar '[' :: unescaped rest
  | c :: rest => c :: unescaped rest

/-- What stands behind the last code point of a text on the console: one more backslash, if the
    text ends in a single one. -/
def trailer (t : Text) : Text :=
  match t.reverse with
  | .scalar '\\' :: .scalar '\\' :: _ => []
  | .scalar '\\' :: _ => "\\"
  | _ => []

def shown (t : Text) : Text := unescaped t ++ trailer t

/-- A text as a console can take it, which has no bytes for a surrogate: in its place stands its
    number. -/
def plain (t : Text) : Text :=
  t.flatMap fun (c : CodePoint) => if c.isSurrogate then Text.numbered c else [c]

end Ambient.Console
