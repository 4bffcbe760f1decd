/-
  Ambient/Constant/Infer.lean
  ===========================
  **Constant types inferred for parameters.**

  Documentation gives a parameter that takes one of several constants a type that only says so.
  Such a parameter gets a constant type of its own, if its constants are known: from the
  corrections of the settings, or else from its description.  The type is registered in the
  context, and the parameter is documented with it from then on.  All other parameters stay as
  they are.
-/
import Ambient.Constant.Phrase
import Ambient.Constant.Words
import Ambient.Context
import Ambient.Doc.Basic

namespace Ambient

/-- Whether a parameter is documented as taking one of several constants. -/
def Settings.isConstantParam (s : Settings) (p : Param) : Bool :=
  p.type.map Text.trim = some s.constantToken

def Settings.constantsOf (s : Settings) (member : Text) (p : Param) : List Text :=
  (s.overrideFor member p.name).getD (extractConstants p.description)

def Settings.constantType? (s : Settings) (member : Text) (p : Param) :
    Option (Text × List Text) :=
  if s.isConstantParam p && !(s.constantsOf member p).isEmpty then
    some (constantTypeName member p.name, s.constantsOf member p)
  else none

namespace Context

/-- The parameter of a member with its constant type, which is registered, if it has one. -/
def inferConstant (ctx : Context) (member : Text) (p : Param) : Param × Context :=
  match ctx.settings.constantType? member p with
  | some (name, values) => ({ p with type := some name }, ctx.registerConstant name values)
  | none => (p, ctx)

def inferConstants (ctx : Context) (member : Text) : List Param → List Param × Context
  | [] => ([], ctx)
  | p :: rest =>
    let (p, ctx) := ctx.inferConstant member p
    let (rest, ctx) := ctx.inferConstants member rest
    (p :: rest, ctx)

end Context

end Ambient
