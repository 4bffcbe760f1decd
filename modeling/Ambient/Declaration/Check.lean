/-
  Ambient/Declaration/Check.lean
  ==============================
  **Checks on a signature before it is declared.**

  A signature is declared as it is only if nothing speaks against it.  An `Objection` is one
  thing that does: the name of the member (which a constructor does not need), the order, names
  and types of the parameters, or the type of the return value.  A type speaks against the
  signature if it does not resolve completely, or resolves to nothing.

  The objections come in a fixed order: the one to the member first, then those to each parameter
  in turn, then the one to the return value.
-/
import Ambient.DocType.Translate
import Ambient.Symbol

namespace Ambient

/-- What speaks against declaring a signature. -/
inductive Objection where
  | memberName (name : Text)
  | requiredAfterOptional (param : Text)
  | repeatedParam (param : Text)
  | paramName (param : Text)
  | paramType (param : Text) (type : Option Text)
  | returnType (type : Option Text)
deriving DecidableEq, Repr

namespace Objection

def cited (name : Text) : Text := "\"" ++ name ++ "\""

def citedType (type : Option Text) : Text := type.getD "None"

def badNameText (name : Text) : Text := cited name ++ " is not a valid JS symbol name"

def message : Objection → Text
  | memberName name => badNameText name
  | requiredAfterOptional p => "required param " ++ cited p ++ " follows an optional param"
  | repeatedParam p => "param " ++ cited p ++ " is defined multiple times"
  | paramName p => "param " ++ badNameText p
  | paramType p type => "param " ++ cited p ++ " has invalid type: " ++ citedType type
  | returnType type => "return has invalid type: " ++ citedType type

end Objection

namespace Context

/-- Whether a documented type resolves completely, and to something. -/
def resolvesType (ctx : Context) (type : Option Text) : Bool × Context :=
  let (translated, ctx') := ctx.translate none type
  (match translated with
    | none => false
    | some text => !text.isEmpty, ctx')

/-- The objections to a parameter that follows some parameters; the flag tells whether one of
    them is optional. -/
def paramObjections (ctx : Context) (before : List Text) (afterOptional : Bool) (p : Param) :
    List Objection × Context :=
  let (resolves, ctx') := ctx.resolvesType p.type
  ((if !p.isOptional && afterOptional then [.requiredAfterOptional p.name] else []) ++
    (if before.contains p.name then [.repeatedParam p.name] else []) ++
    (if isSymbol p.name then [] else [.paramName p.name]) ++
    (if resolves then [] else [.paramType p.name p.type]), ctx')

def paramsObjections (ctx : Context) (before : List Text) (afterOptional : Bool) :
    List Param → List Objection × Context
  | [] => ([], ctx)
  | p :: rest =>
    let (here, ctx) := ctx.paramObjections before afterOptional p
    let (more, ctx) := ctx.paramsObjections (p.name :: before) (afterOptional || p.isOptional) rest
    (here ++ more, ctx)

def returnObjections (ctx : Context) : Option ReturnDoc → List Objection × Context
  | none => ([], ctx)
  | some r =>
    let (resolves, ctx') := ctx.resolvesType r.type
    (if resolves then [] else [.returnType r.type], ctx')

def objections (ctx : Context) (e : Entry) (s : Signature) : List Objection × Context :=
  let name := if e.isConstructor || isSymbol e.name then [] else [Objection.memberName e.name]
  let (params, ctx) := ctx.paramsObjections [] false s.params
  let (returned, ctx) := ctx.returnObjections s.returned
  (name ++ params ++ returned, ctx)

end Context

end Ambient
