/-
  Ambient/Declaration/Decode.lean
  ===============================
  **Reading declarations.**

  A model can be given as JSON instead of being built from documentation.  A member says by its
  `kind` which of the three it is; the kind may be absent where only one is possible, and then
  it must not be another one.
-/
import Ambient.Declaration.Basic
import Ambient.Decode.Record

namespace Ambient

def MethodDecl.decode : Decoder MethodDecl := Decoder.record fun o =>
  (fun _ => MethodDecl.mk) <$> optionalField "kind" (Decoder.exactly "method") () o
    <*> requiredField "name" Decoder.text o
    <*> optionalField "params" (Decoder.list Decoder.text) [] o
    <*> optionalField "return_type" Decoder.text "void" o
    <*> optionalField "is_constructor" Decoder.flag false o
    <*> optionalField "static" Decoder.flag false o
    <*> optionalField "description" Decoder.text [] o
    <*> optionalField "file" Decoder.text [] o
    <*> optionalField "line" (Decoder.nullable Decoder.integer) none o
    <*> optionalField "errors" (Decoder.list Decoder.text) [] o

def PropertyDecl.decode : Decoder PropertyDecl := Decoder.record fun o =>
  (fun _ => PropertyDecl.mk) <$> optionalField "kind" (Decoder.exactly "property") () o
    <*> requiredField "name" Decoder.text o
    <*> optionalField "type" Decoder.text "any" o
    <*> optionalField "value" (Decoder.nullable Decoder.text) none o
    <*> optionalField "final" Decoder.flag false o
    <*> optionalField "description" Decoder.text [] o
    <*> optionalField "file" Decoder.text [] o
    <*> optionalField "valid" Decoder.flag true o

def UnsupportedDecl.decode : Decoder UnsupportedDecl := Decoder.record fun o =>
  (fun _ => UnsupportedDecl.mk) <$> optionalField "kind" (Decoder.exactly "unsupported") () o
    <*> requiredField "name" Decoder.text o
    <*> requiredField "itemtype" Decoder.text o
    <*> optionalField "file" Decoder.text [] o

def Member.decode : Decoder Member := Decoder.variant "kind" [
  ("method", fun v => (MethodDecl.decode v).map .method),
  ("property", fun v => (PropertyDecl.decode v).map .property),
  ("unsupported", fun v => (UnsupportedDecl.decode v).map .unsupported)]

def AliasBlock.decode : Decoder AliasBlock := Decoder.record fun o =>
  AliasBlock.mk <$> requiredField "class_name" Decoder.text o
    <*> optionalField "members" (Decoder.list Member.decode) [] o

def ClassDecl.decode : Decoder ClassDecl := Decoder.record fun o =>
  ClassDecl.mk <$> requiredField "class_name" Decoder.text o
    <*> requiredField "name" Decoder.text o
    <*> optionalField "extends" (Decoder.nullable Decoder.text) none o
    <*> optionalField "file" Decoder.text [] o
    <*> optionalField "members" (Decoder.list Member.decode) [] o

def Model.decode : Decoder Model := Decoder.record fun o =>
  Model.mk <$> requiredField "root_name" Decoder.text o
    <*> optionalField "aliases" (Decoder.list AliasBlock.decode) [] o
    <*> optionalField "classes" (Decoder.list ClassDecl.decode) [] o
    <*> optionalField "constants" (Decoder.table (Decoder.list Decoder.text)) .empty o
    <*> optionalField "unknown_types" (Decoder.table Decoder.text) .empty o

end Ambient
