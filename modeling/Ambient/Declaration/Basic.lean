/-
  Ambient/Declaration/Basic.lean
  ==============================
  **Declarations.**

  A `Model` is what is to be declared, before it is written in one of the two forms.  The members
  of the root class come in blocks, one for each documented class that is a further name for it;
  the other classes stand in the namespace of the root.  A method may have objections, and a
  property a name that cannot be declared; both are then only mentioned in a comment, as is every
  item that is neither.
-/
import Ambient.Declaration.Literal
import Ambient.Table

namespace Ambient

structure MethodDecl where
  name : Text
  params : List Text
  returnType : Text
  isConstructor : Bool
  isStatic : Bool
  description : Text
  file : Text
  line : Option Int
  /-- The objections to the signature; with any, it is only mentioned in a comment. -/
  errors : List Text
deriving DecidableEq, Repr

namespace MethodDecl

def signature (m : MethodDecl) : Text :=
  let params := Text.join ", " m.params
  if m.isConstructor then "constructor(" ++ params ++ ")"
  else m.name ++ "(" ++ params ++ "): " ++ m.returnType

end MethodDecl

structure PropertyDecl where
  name : Text
  type : Text
  /-- The value as it is written in TypeScript. -/
  value : Option Text
  isFinal : Bool
  description : Text
  file : Text
  /-- Whether the name can be declared. -/
  isValid : Bool
deriving DecidableEq, Repr

namespace PropertyDecl

/-- The value that is written in the place of the type: that of a constant, if it is a literal. -/
def literal? (p : PropertyDecl) : Option Text :=
  p.value.filter fun v => p.isFinal && isLiteral v

def signature (p : PropertyDecl) : Text := p.name ++ ": " ++ p.literal?.getD p.type

def defaultText (value : Text) : Text := "(default: " ++ value ++ ")"

/-- The description, with the default value if the signature does not show it. -/
def doc (p : PropertyDecl) : Text :=
  match p.value, p.literal? with
  | some value, none =>
    if p.description.isEmpty then defaultText value
    else p.description ++ "\n\n" ++ defaultText value
  | _, _ => p.description

end PropertyDecl

/-- An item that has no form in a declaration file. -/
structure UnsupportedDecl where
  name : Text
  label : Text
  file : Text
deriving DecidableEq, Repr

inductive Member where
  | method (m : MethodDecl)
  | property (p : PropertyDecl)
  | unsupported (u : UnsupportedDecl)
deriving DecidableEq, Repr

namespace Member

def file : Member → Text
  | method m => m.file
  | property p => p.file
  | unsupported u => u.file

end Member

/-- The members of a documented class that belong to the root class. -/
structure AliasBlock where
  className : Text
  members : List Member
deriving DecidableEq, Repr

structure ClassDecl where
  className : Text
  name : Text
  parent : Option Text
  file : Text
  members : List Member
deriving DecidableEq, Repr

structure Model where
  rootName : Text
  aliases : List AliasBlock
  classes : List ClassDecl
  /-- The constant types, with the constants of each. -/
  constants : Table (List Text)
  /-- The documented types that nothing resolved, with the files in which they were first met. -/
  unknownTypes : Table Text

namespace Model

/-- All members, those of the root class first. -/
def members (m : Model) : List Member :=
  m.aliases.flatMap AliasBlock.members ++ m.classes.flatMap ClassDecl.members

end Model

end Ambient
