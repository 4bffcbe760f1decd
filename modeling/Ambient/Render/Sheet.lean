/-
  Ambient/Render/Sheet.lean
  =========================
  **Sheets: text that is written line by line.**

  A sheet has the lines written so far, the level that lines are indented by, and the source file
  that is being written about.  A `Command` is one thing to do to a sheet.  A blank line is never
  indented; a section break makes sure that the last line is blank, and does nothing at the top.
  The one thing that can go wrong is to take the level below the margin.

  A description is written as a comment, without its tags and without the blanks around it and at
  the ends of its lines; one of which nothing is left is not written.
-/
import Ambient.Text.Blank
import Ambient.Text.Lines
import Ambient.Text.Tag

namespace Ambient

/-- Text that is written line by line. -/
structure Sheet where
  lines : Array Text
  level : Nat
  sourceFile : Text
deriving DecidableEq, Repr

inductive Command where
  | emit (line : Text)
  | indent
  | dedent
  | sectionBreak
  | description (text : Text)
  | sourceFile (file : Text)
deriving DecidableEq, Repr

inductive SheetError where
  | belowMargin
deriving DecidableEq, Repr

def SheetError.message : SheetError → Text
  | belowMargin => "Cannot dedent below level 0"

namespace Sheet

def blank : Sheet := ⟨#[], 0, []⟩

def indentation : Text := "    "

def margin (level : Nat) : Text := (List.replicate level indentation).flatten

/-- A line at a level; a blank one has no indentation. -/
def indented (level : Nat) (line : Text) : Text := if line.isEmpty then [] else margin level ++ line

def emit (s : Sheet) (text : Text) : Sheet :=
  { s with lines := s.lines ++ (Text.split '\n' text).map (indented s.level) }

def indent (s : Sheet) : Sheet := { s with level := s.level + 1 }

def dedent (s : Sheet) : Except SheetError Sheet :=
  match s.level with
  | 0 => .error .belowMargin
  | level + 1 => .ok { s with level := level }

/-- The sheet with a blank line at its end, unless it has one there or has no line at all. -/
def sectionBreak (s : Sheet) : Sheet :=
  match s.lines.back? with
  | none => s
  | some last => if last.isEmpty then s else { s with lines := s.lines.push [] }

/-- The lines of a description: without tags, and without blanks around it and at the ends of
    its lines. -/
def descriptionLines (text : Text) : List Text :=
  (Text.lines (Text.trim (Text.stripTags text))).map Text.trimEnd

def commentLine (line : Text) : Text := Text.trimEnd (" * " ++ line)

def description (s : Sheet) (text : Text) : Sheet :=
  match descriptionLines text with
  | [] => s
  | lines => (lines.foldl (fun s line => s.emit (commentLine line)) (s.emit "/**")).emit " */"

def about (s : Sheet) (file : Text) : Sheet := { s with sourceFile := file }

def apply (s : Sheet) : Command → Except SheetError Sheet
  | .emit line => .ok (s.emit line)
  | .indent => .ok s.indent
  | .dedent => s.dedent
  | .sectionBreak => .ok s.sectionBreak
  | .description text => .ok (s.description text)
  | .sourceFile file => .ok (s.about file)

def run (s : Sheet) : List Command → Except SheetError Sheet
  | [] => .ok s
  | c :: rest =>
    match s.apply c with
    | .ok s => s.run rest
    | .error e => .error e

def text (s : Sheet) : Text := Text.join "\n" s.lines.toList ++ "\n"

theorem run_append (s : Sheet) (first more : List Command) :
    s.run (first ++ more) = (s.run first).bind fun s => s.run more := by
  induction first generalizing s with
  | nil => rfl
  | cons c rest ih =>
    simp only [List.cons_append, run]
    cases s.apply c with
    | ok s => exact ih s
    | error e => rfl

end Sheet

end Ambient
