/-
  Ambient/Main.lean
  =================
  **The program.**

  The program runs the command on the machine it is started on.  Its files are the ones of the
  machine; it has no way to the web, so every address is out of reach.
-/
import Ambient.CommandLine.Command

namespace Ambient

def FileFault.ofNumber? (number : Nat) : Option FileFault :=
  [FileFault.notFound, .alreadyThere, .notDirectory, .isDirectory, .nameTooLong].find? fun f =>
    f.number = number

namespace Machine

def errorNumber : IO.Error → Nat
  | .noFileOrDirectory .. => FileFault.notFound.number
  | .alreadyExists .. => FileFault.alreadyThere.number
  | .inappropriateType _ number _ => number.toNat
  | .invalidArgument _ number _ => number.toNat
  | .resourceExhausted _ number _ => number.toNat
  | .illegalOperation number _ => number.toNat
  | .otherError number _ => number.toNat
  | _ => 0

/-- The result of an action on files; an error that is no fault of a path stays an error. -/
def attempt {α : Type} (action : IO α) : IO (Except FileFault α) := do
  match ← action.toBaseIO with
  | .ok a => return .ok a
  | .error e =>
    match FileFault.ofNumber? (errorNumber e) with
    | some f => return .error f
    | none => throw e

def host : Host IO where
  readFile path := attempt do
    return (← IO.FS.readBinFile path.text.toStr).toList
  makeDirectories path := attempt (IO.FS.createDirAll path.text.toStr)
  writeFile path bytes := attempt (IO.FS.writeBinFile path.text.toStr ⟨bytes.toArray⟩)
  fetch url := return .error (.unreachable url.text)
  workingDirectory := return .ofText (Text.ofString (← IO.currentDir).toString)

def usage : String :=
  "Usage: ambient [--config PATH] [--verbose] SCHEMA ROOT_DIR OUT_DIR\n"

def run (words : List String) : IO UInt32 := do
  match Request.ofWords? (words.map Text.ofString) with
  | none =>
    (← IO.getStderr).putStr usage
    return 2
  | some .help =>
    (← IO.getStdout).putStr usage
    return 0
  | some (.run arguments) =>
    let transcript ← host.runCommand arguments
    (← IO.getStderr).putStr transcript.text.toStr
    match transcript.ending with
    | .exit status => return status.toUInt32
    | .failed failure =>
      (← IO.getStderr).putStr (failure.message.toStr ++ "\n")
      return 1

end Machine

end Ambient

def main (words : List String) : IO UInt32 := Ambient.Machine.run words
