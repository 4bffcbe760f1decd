/-
  Ambient/Settings/Decode.lean
  ============================
  **Reading settings.**

  A setting that is absent keeps its default; a correction must have all its parts.
-/
import Ambient.Settings.Basic
import Ambient.Decode.Record

namespace Ambient

def ConstantOverride.decode : Decoder ConstantOverride := Decoder.record fun o =>
  ConstantOverride.mk <$> requiredField "member" Decoder.text o
    <*> requiredField "param" Decoder.text o
    <*> requiredField "values" (Decoder.list Decoder.text) o

def Settings.decode : Decoder Settings := Decoder.record fun o =>
  let standard := Settings.standard
  Settings.mk <$> optionalField "root_name" Decoder.text standard.rootName o
    <*> optionalField "root_token" Decoder.text standard.rootToken o
    <*> optionalField "aliases" (Decoder.list Decoder.text) standard.aliases o
    <*> optionalField "external_types" (Decoder.list Decoder.text) standard.externalTypes o
    <*> optionalField "primitive_types" (Decoder.table Decoder.text) standard.primitiveTypes o
    <*> optionalField "fallback_type" Decoder.text standard.fallbackType o
    <*> optionalField "constant_token" Decoder.text standard.constantToken o
    <*> optionalField "constant_overrides" (Decoder.list ConstantOverride.decode)
      standard.constantOverrides o
    <*> optionalField "reserved_param_names" (Decoder.table Decoder.text)
      standard.reservedParamNames o

end Ambient
