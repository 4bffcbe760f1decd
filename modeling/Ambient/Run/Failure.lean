/-
  Ambient/Run/Failure.lean
  ========================
  **Why a run comes to no end.**

  A run can fail because its documentation or its settings cannot be used, because the web gives
  no documentation, or because something is wrong with the files it reads and writes.  The first
  three are told to the user (`Failure.isTold`), whoever runs the program; the others are for
  whoever set it up.

  Where many things do not fit in a document, the failure has all of them, and its wording is one
  sentence about the document.
-/
import Ambient.Decode.Issue
import Ambient.Declaration.Build
import Ambient.File.Tree
import Ambient.Json.Reader
import Ambient.Render.Sheet
import Ambient.Web.Response

namespace Ambient

inductive SchemaFault where
  | unreadable (source : Text) (fault : FileFault)
  | malformed (complaint : Json.Complaint) (whole remaining : Text)
  | notObject
  | layout (issues : List Issue)
  | build (error : BuildError)
deriving DecidableEq, Repr

def SchemaFault.message : SchemaFault → Text
  | unreadable source fault =>
    "Cannot read documentation schema " ++ source ++ ": " ++ fault.message (.ofText source)
  | malformed complaint whole remaining =>
    "Documentation schema is not valid JSON: " ++ Json.complaintText complaint whole remaining
  | notObject => "Documentation schema must be a JSON object"
  | layout _ => "Documentation schema does not match the YUIDoc layout"
  | build error => error.message

inductive SettingsFault where
  | unreadable (source : Text) (fault : FileFault)
  | malformed (source : Text)
  | layout (source : Text) (issues : List Issue)
deriving DecidableEq, Repr

namespace SettingsFault

def refusal (source : Text) : Text := "Cannot load config from " ++ source

def message : SettingsFault → Text
  | unreadable source fault => refusal source ++ ": " ++ fault.message (.ofText source)
  | malformed source => refusal source
  | layout source _ => refusal source

end SettingsFault

/-- Why a run comes to no end. -/
inductive Failure where
  | schema (fault : SchemaFault)
  | settings (fault : SettingsFault)
  | web (fault : WebFault)
  | undecodable (fault : Utf8.DecodeFault)
  | unencodable (fault : EncodeFault)
  | hugeInteger (digits : Nat)
  | tooDeep (container : Json.Container)
  | path (fault : PathFault)
  | unwritable (fault : FileFault)
  | sheet (error : SheetError)
deriving DecidableEq, Repr

namespace Failure

/-- Whether the failure is told to the user as one of the run. -/
def isTold : Failure → Bool
  | schema _ | settings _ => true
  | web fault => fault.isOfWeb
  | _ => false

def message : Failure → Text
  | schema fault => fault.message
  | settings fault => fault.message
  | web fault => fault.message
  | undecodable fault => fault.message
  | unencodable fault => fault.message
  | hugeInteger digits => Json.hugeIntegerText digits
  | tooDeep container => Json.tooDeepText container
  | path fault => fault.message
  | unwritable fault => fault.reason
  | sheet error => error.message

end Failure

end Ambient
