/-
  Ambient/Run/Generate.lean
  =========================
  **A run: from documentation to the two declaration files.**

  A run builds the model of its documentation and writes the two forms of it into a directory, the
  module form first.  Nothing is written if the model cannot be built.  On its way a run gives
  notice of each item that has no form in a declaration file, and at its end of what it has made;
  the notices of a run that fails are the ones up to there.
-/
import Ambient.Render.Commands
import Ambient.Report.Basic
import Ambient.Run.Host

namespace Ambient

inductive Notice where
  | passedOver (item : UnsupportedDecl)
  | finished (aliases classes constants diagnostics unknownTypes : Nat)
deriving DecidableEq, Repr

namespace Notice

def message : Notice → Text
  | passedOver item => "Skipping " ++ item.label ++ " " ++ item.name.quoted ++ " in " ++ item.file
  | finished aliases classes constants diagnostics unknownTypes =>
    "Generated " ++ Text.ofNat aliases ++ " aliases, " ++ Text.ofNat classes ++ " classes, " ++
      Text.ofNat constants ++ " constant types (" ++ Text.ofNat diagnostics ++ " diagnostics, " ++
      Text.ofNat unknownTypes ++ " unknown types)"

def ofReport (m : Model) (r : Report) : Notice :=
  .finished m.aliases.length m.classes.length m.constants.size r.diagnostics.length
    r.unknownTypes.size

end Notice

/-- How a run went: its notices, and its result. -/
structure Outcome (α : Type) where
  notices : List Notice
  result : Except Failure α

namespace Host

variable {m : Type → Type} [Monad m]

def writeForm (h : Host m) (path : Path) (form : Except SheetError Sheet) :
    m (Except Failure Unit) :=
  match form with
  | .error e => return .error (.sheet e)
  | .ok sheet => h.writeText path sheet.text

def writeModel (h : Host m) (settings : Settings) (directory : Path) (model : Model) :
    m (Except Failure Report) := do
  let modulePath := directory.child settings.moduleFile
  let globalPath := directory.child settings.globalFile
  match ← h.writeForm modulePath (model.renderModule .blank) with
  | .error f => return .error f
  | .ok () =>
    match ← h.writeForm globalPath (model.renderGlobal .blank) with
    | .error f => return .error f
    | .ok () => return .ok (.ofModel model [modulePath, globalPath])

def generate (h : Host m) (settings : Settings) (directory : Path) (schema : Schema) :
    m (Outcome Report) := do
  let build := Build.run settings schema
  let notices := build.passedOver.map .passedOver
  match build.result with
  | .error e => return ⟨notices, .error (.schema (.build e))⟩
  | .ok model =>
    match ← h.writeModel settings directory model with
    | .error f => return ⟨notices, .error f⟩
    | .ok report => return ⟨notices ++ [.ofReport model report], .ok report⟩

end Host

end Ambient
