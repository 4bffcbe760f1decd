/-
  Ambient/Report/Decode.lean
  ==========================
  **Reading reports.**
-/
import Ambient.Decode.Record
import Ambient.Report.Basic

namespace Ambient

def Diagnostic.decode : Decoder Diagnostic := Decoder.record fun o =>
  Diagnostic.mk <$> optionalField "file" Decoder.text [] o
    <*> optionalField "line" (Decoder.nullable Decoder.integer) none o
    <*> optionalField "member" Decoder.text [] o
    <*> requiredField "message" Decoder.text o

def Path.decode : Decoder Path
  | .text t => .fits (.ofText t)
  | _ => .mismatch .notPath

def Report.decode : Decoder Report := Decoder.record fun o =>
  Report.mk <$> optionalField "diagnostics" (Decoder.list Diagnostic.decode) [] o
    <*> optionalField "unknown_types" (Decoder.table Decoder.text) .empty o
    <*> optionalField "constants" (Decoder.table (Decoder.list Decoder.text)) .empty o
    <*> optionalField "outputs" (Decoder.list Path.decode) [] o

end Ambient
