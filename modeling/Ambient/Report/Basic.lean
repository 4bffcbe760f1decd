/-
  Ambient/Report/Basic.lean
  =========================
  **What is reported of a finished run.**

  A report has one diagnostic for each objection to a declared method and one for each property
  whose name cannot be declared, in the order of the members (`Member.diagnostics`), the types
  that nothing resolved, the constant types, and the files that were written.

  A report is written as lines: the diagnostics first, then the unknown types.  Source files can
  be shown as seen from a root directory; an entry without a source file is shown without one.
-/
import Ambient.Declaration.Basic
import Ambient.Declaration.Check
import Ambient.File.Path

namespace Ambient

/-- Something that was found on the way and did not end the run. -/
structure Diagnostic where
  file : Text
  line : Option Int
  member : Text
  message : Text
deriving DecidableEq, Repr

structure Report where
  diagnostics : List Diagnostic
  unknownTypes : Table Text
  constants : Table (List Text)
  /-- The files that were written. -/
  outputs : List Path

def Member.diagnostics : Member → List Diagnostic
  | method m => m.errors.map fun error => ⟨m.file, m.line, m.name, error⟩
  | property p =>
    if p.isValid then [] else [⟨p.file, none, p.name, Objection.badNameText p.name⟩]
  | unsupported _ => []

namespace Report

def ofModel (m : Model) (outputs : List Path) : Report where
  diagnostics := m.members.flatMap Member.diagnostics
  unknownTypes := m.unknownTypes
  constants := m.constants
  outputs := outputs

def isClean (r : Report) : Bool := r.diagnostics.isEmpty && r.unknownTypes.entries.isEmpty

def shownFile (root : Option Path) (file : Text) : Text :=
  match root with
  | none => file
  | some root => if file.isEmpty then [] else (root.child file).text

def diagnosticLine (root : Option Path) (d : Diagnostic) : Text :=
  let line :=
    match d.line with
    | none => []
    | some n => ":" ++ Text.ofInt n
  shownFile root d.file ++ line ++ ", " ++ d.message

def unknownTypeLine (root : Option Path) (token file : Text) : Text :=
  "MISSING: " ++ token ++ " (" ++ shownFile root file ++ ")"

def lines (r : Report) (root : Option Path) : List Text :=
  r.diagnostics.map (diagnosticLine root) ++
    r.unknownTypes.entries.map fun (token, file) => unknownTypeLine root token file

end Report

end Ambient
