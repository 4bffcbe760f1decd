/-
  Ambient/Doc/Decode.lean
  =======================
  **Reading documentation.**

  Only the classes and the items of a documentation file are read; whatever else it has is passed
  over.  Files written on Windows name source files with backslashes, which become slashes.  A
  default value that is no text is kept as it is displayed.  A class whose entry gives no name is
  named by its key.
-/
import Ambient.Doc.Basic
import Ambient.Decode.Record

namespace Ambient

abbrev Fields := List (Text × Json)

def Param.decode : Decoder Param := Decoder.record fun o =>
  Param.mk <$> optionalField "name" Decoder.text [] o
    <*> optionalField "type" (Decoder.nullable Decoder.text) none o
    <*> optionalField "optional" Decoder.flag false o
    <*> optionalField "description" Decoder.text [] o

def ReturnDoc.decode : Decoder ReturnDoc := Decoder.record fun o =>
  ReturnDoc.mk <$> optionalField "type" (Decoder.nullable Decoder.text) none o
    <*> optionalField "description" Decoder.text [] o

def Signature.ofFields (o : Fields) : Checked Signature :=
  Signature.mk <$> optionalField "params" (Decoder.list Param.decode) [] o
    <*> aliasedField "return" "return_" (Decoder.nullable ReturnDoc.decode) none o
    <*> optionalField "static" Decoder.flag false o
    <*> optionalField "chainable" Decoder.flag false o
    <*> optionalField "line" (Decoder.nullable Decoder.integer) none o

def Signature.decode : Decoder Signature := Decoder.record Signature.ofFields

def slashed (path : Text) : Text := Text.replace '\\' "/" path

def Entry.ofFields (o : Fields) : Checked Entry :=
  Entry.mk <$> Signature.ofFields o
    <*> (optionalField "file" Decoder.text [] o).map slashed
    <*> optionalField "description" Decoder.text [] o
    <*> optionalField "is_constructor" Decoder.flag false o
    <*> optionalField "overloads" (Decoder.nullable (Decoder.list Signature.decode)) none o
    <*> optionalField "name" Decoder.text [] o

def ClassDoc.decode : Decoder ClassDoc := Decoder.record fun o =>
  ClassDoc.mk <$> Entry.ofFields o
    <*> optionalField "extends" (Decoder.nullable Decoder.text) none o

/-- Reads a default value: any value but null, as it is displayed. -/
def decodeDefault : Decoder (Option Text)
  | .null => .fits none
  | v => .fits (some v.display)

def ItemDoc.decode : Decoder ItemDoc := Decoder.record fun o =>
  ItemDoc.mk <$> Entry.ofFields o
    <*> aliasedField "class" "class_" Decoder.text [] o
    <*> (optionalField "itemtype" Decoder.text [] o).map ItemKind.ofLabel
    <*> optionalField "type" (Decoder.nullable Decoder.text) none o
    <*> optionalField "default" decodeDefault none o
    <*> optionalField "final" Decoder.flag false o

def ClassDoc.named (key : Text) (c : ClassDoc) : ClassDoc :=
  if c.name.isEmpty then { c with name := key } else c

/-- The value of a field, where one that is absent or stands for nothing is an empty container. -/
def containerField (name : Text) (absent : Json) (o : Fields) : Json :=
  match o.lookup name with
  | some v => if v.isNothing then absent else v
  | none => absent

def Schema.ofFields (o : Fields) : Checked Schema :=
  Schema.mk
    <$> ((Decoder.table ClassDoc.decode (containerField "classes" (.object []) o)).within
        (.field "classes")).map (Table.mapEntries ClassDoc.named)
    <*> (Decoder.list ItemDoc.decode (containerField "classitems" (.array []) o)).within
        (.field "classitems")

end Ambient
