/-
  Ambient/CommandLine/Command.lean
  ================================
  **The command.**

  The command loads the settings, if any are named, then the documentation, and makes a run.  It
  tells what it does in lines: with the verbose option the notices of the run, then the lines of
  the report with the source files as seen from the root directory, then the files that were
  written.  A failure that is told to the user is the last line, and the command exits with 1;
  any other failure ends the command as it is.
-/
import Ambient.CommandLine.Arguments
import Ambient.CommandLine.Console
import Ambient.Run.Generate
import Ambient.Run.Load

namespace Ambient

/-- How a command ended: with an exit status, or with a failure that it does not tell. -/
inductive Ending where
  | exit (status : Nat)
  | failed (failure : Failure)
deriving DecidableEq, Repr

structure Transcript where
  ending : Ending
  lines : List Text
deriving DecidableEq, Repr

namespace Transcript

def text (t : Transcript) : Text := Console.plain (t.lines.flatMap fun line => line ++ "\n")

def failureLine (f : Failure) : Text := "error: " ++ Console.shown f.message

def ofFailure (before : List Text) (f : Failure) : Transcript :=
  if f.isTold then ⟨.exit 1, before ++ [failureLine f]⟩ else ⟨.failed f, before⟩

def writtenLine (p : Path) : Text := "wrote " ++ Console.shown p.text

def ofReport (before : List Text) (root : Path) (r : Report) : Transcript :=
  ⟨.exit 0, before ++ r.lines (some root) ++ r.outputs.map writtenLine⟩

end Transcript

def Notice.line (n : Notice) : Text :=
  (match n with
    | passedOver _ => Text.ofString "DEBUG"
    | finished .. => Text.ofString "INFO") ++ " yuidts.codegen: " ++ n.message

namespace Host

variable {m : Type → Type} [Monad m]

/-- The settings in a file, or the standard ones if no file is named. -/
def settingsOf (h : Host m) (file : Option Path) : m (Except Failure Settings) :=
  match file with
  | none => return .ok .standard
  | some path => h.loadSettings path.text

def runCommand (h : Host m) (a : Arguments) : m Transcript := do
  match ← h.settingsOf a.settings with
  | .error f => return .ofFailure [] f
  | .ok settings =>
    match ← h.loadSchema true a.schema with
    | .error f => return .ofFailure [] f
    | .ok schema =>
      let outcome ← h.generate settings a.outDirectory schema
      let notices := if a.isVerbose then outcome.notices.map Notice.line else []
      match outcome.result with
      | .error f => return .ofFailure notices f
      | .ok report =>
        return .ofReport notices (Path.resolve (← h.workingDirectory) a.rootDirectory) report

end Host

end Ambient
