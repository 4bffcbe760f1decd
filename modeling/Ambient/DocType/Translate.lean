/-
  Ambient/DocType/Translate.lean
  ==============================
  **Documented types in TypeScript.**

  A documented type becomes the text of a TypeScript type part by part.  A word that nothing
  resolves is recorded in the context, and a fallback stands in its place; without a fallback the
  array or union around it has no TypeScript type either.  The arguments of a function always
  have one, since `any` is their fallback.

  A function type is put in parentheses where it is the element of an array or the member of a
  union, and so is every type that holds the arrow of one.

  As with `DocType.parse`, the depth of a type has no limit here.
-/
import Ambient.Context
import Ambient.Doc.Basic
import Ambient.DocType.Basic

namespace Ambient

namespace DocType

def arrow : Text := "=>"

def guarded (type : Text) : Text :=
  if Text.mentions arrow type then "(" ++ type ++ ")" else type

def arrayText (element : Text) : Text := guarded element ++ arrayMark

def unionText (members : List Text) : Text := Text.join "|" (members.map guarded)

/-- The parameters of a function type, which are numbered from some number on. -/
def numberedParams : Nat → List Text → List Text
  | _, [] => []
  | n, type :: rest => ("p" ++ Text.ofNat n ++ ": " ++ type) :: numberedParams (n + 1) rest

def functionText (params : List Text) : Text :=
  "(" ++ Text.join ", " (numberedParams 1 params) ++ ") => any"

def argumentFallback : Text := "any"

def allPresent {α : Type} : List (Option α) → Option (List α)
  | [] => some []
  | none :: _ => none
  | some a :: rest => (allPresent rest).map fun as => a :: as

mutual

/-- The TypeScript type of a documented type, and the context with the words of it that nothing
    resolves. -/
def translate (fallback : Option Text) (ctx : Context) : DocType → Option Text × Context
  | blank => (some [], ctx)
  | word name =>
    match ctx.resolve? name with
    | some type => (some type, ctx)
    | none => (fallback, ctx.recordUnknown name)
  | array element =>
    let (type, ctx) := translate fallback ctx element
    (type.map arrayText, ctx)
  | union members =>
    let (types, ctx) := translateAll fallback ctx members
    ((allPresent types).map unionText, ctx)
  | function params =>
    let (types, ctx) := translateAll (some argumentFallback) ctx params
    ((allPresent types).map functionText, ctx)

def translateAll (fallback : Option Text) (ctx : Context) :
    List DocType → List (Option Text) × Context
  | [] => ([], ctx)
  | t :: rest =>
    let (type, ctx) := translate fallback ctx t
    let (types, ctx) := translateAll fallback ctx rest
    (type :: types, ctx)

end

end DocType

namespace Context

/-- The TypeScript type of what documentation gives as a type; where it gives none, that is the
    fallback. -/
def translate (ctx : Context) (fallback : Option Text) : Option Text → Option Text × Context
  | none => (fallback, ctx)
  | some token => (DocType.parse token).translate fallback ctx

def translateFully (ctx : Context) (token : Option Text) : Text × Context :=
  let (type, ctx') := ctx.translate (some ctx.settings.fallbackType) token
  (type.getD ctx.settings.fallbackType, ctx')

def paramName (ctx : Context) (name : Text) : Text :=
  (ctx.settings.reservedParamNames.get? name).getD name

def translateParam (ctx : Context) (p : Param) : Text × Context :=
  let (type, ctx') := ctx.translateFully p.type
  (ctx.paramName p.name ++ (if p.isOptional then "?: " else ": ") ++ type, ctx')

end Context

end Ambient
