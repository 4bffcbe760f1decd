/-
  Ambient/Declaration/Build.lean
  ==============================
  **From documentation to declarations.**

  The classes are parted first: those that the settings have as further names of the root, and
  those of its namespace; any other class ends the build before it has begun.  Then the walk goes
  through the root classes and through the others, each time in the order of documentation, with
  one context for all.  A class of the namespace is declared with its constructors first, so a
  class that is not documented as one ends the walk where it is met.

  On its way the walk changes the documentation: a parameter that takes one of several constants
  is documented with its constant type from then on.  So a `Build` has the documentation as the
  walk left it, whether the walk came to its end or not, and the items it passed over.
-/
import Ambient.Constant.Infer
import Ambient.Declaration.Basic
import Ambient.Declaration.Check

namespace Ambient

/-! ### Members -/

namespace Context

/-- The return type that a signature is declared with; a chainable one returns its owner. -/
def returnType (ctx : Context) (s : Signature) (owner : Text) : Text × Context :=
  if s.isChainable then (owner, ctx)
  else
    match s.returned with
    | some r => ctx.translateFully r.type
    | none => ("void", ctx)

def translateParams (ctx : Context) : List Param → List Text × Context
  | [] => ([], ctx)
  | p :: rest =>
    let (text, ctx) := ctx.translateParam p
    let (texts, ctx) := ctx.translateParams rest
    (text :: texts, ctx)

/-- The declaration of one signature of an entry, and the signature with its constant types. -/
def buildSignature (ctx : Context) (e : Entry) (owner : Text) (s : Signature) :
    MethodDecl × Signature × Context :=
  let (params, ctx) := ctx.inferConstants e.name s.params
  let s := { s with params := params }
  let (objections, ctx) := ctx.objections e s
  let (texts, ctx) := ctx.translateParams s.params
  let (returnType, ctx) := ctx.returnType s owner
  ({ name := e.name, params := texts, returnType := returnType,
     isConstructor := e.isConstructor, isStatic := s.isStatic, description := e.description,
     file := e.file, line := s.line, errors := objections.map Objection.message }, s, ctx)

def buildSignatures (ctx : Context) (e : Entry) (owner : Text) :
    List Signature → List MethodDecl × List Signature × Context
  | [] => ([], [], ctx)
  | s :: rest =>
    let (decl, s, ctx) := ctx.buildSignature e owner s
    let (decls, rest, ctx) := ctx.buildSignatures e owner rest
    (decl :: decls, s :: rest, ctx)

def buildMethod (ctx : Context) (e : Entry) (owner : Text) : List MethodDecl × Entry × Context :=
  let (decls, signatures, ctx) := ctx.buildSignatures e owner e.signatures
  (decls, e.withSignatures signatures, ctx)

end Context

/-- The value of a property as it is written in TypeScript.  A constant text without a documented
    value is taken to hold its own name, in lower case with hyphens. -/
def propertyValue (item : ItemDoc) (type : Text) : Option Text :=
  let documented := item.defaultValue.getD []
  let value :=
    if item.isFinal && documented.isEmpty && type = "string" then
      Text.replace '_' "-" (Text.lower item.name)
    else documented
  if value.isEmpty then none
  else if type = "string" then some (quote value)
  else some value

namespace Context

/-- The declaration of a property; one whose name cannot be declared has no more than the name. -/
def buildProperty (ctx : Context) (item : ItemDoc) : PropertyDecl × Context :=
  if isSymbol item.name then
    let (type, ctx) := ctx.translateFully item.type
    ({ name := item.name, type := type, value := propertyValue item type,
       isFinal := item.isFinal, description := item.description, file := item.file,
       isValid := true }, ctx)
  else
    ({ name := item.name, type := "any", value := none, isFinal := false, description := [],
       file := item.file, isValid := false }, ctx)

def buildItem (ctx : Context) (owner : Text) (item : ItemDoc) :
    List Member × ItemDoc × Context :=
  let ctx := ctx.inFile item.file
  match item.kind with
  | .method =>
    let (decls, entry, ctx) := ctx.buildMethod item.toEntry owner
    (decls.map .method, { item with toEntry := entry }, ctx)
  | .property =>
    let (decl, ctx) := ctx.buildProperty item
    ([.property decl], item, ctx)
  | .other label => ([.unsupported ⟨item.name, label, item.file⟩], item, ctx)

def buildItems (ctx : Context) (className owner : Text) :
    List ItemDoc → List Member × List ItemDoc × Context
  | [] => ([], [], ctx)
  | item :: rest =>
    if Schema.belongs className item then
      let (members, item, ctx) := ctx.buildItem owner item
      let (more, rest, ctx) := ctx.buildItems className owner rest
      (members ++ more, item :: rest, ctx)
    else
      let (members, rest, ctx) := ctx.buildItems className owner rest
      (members, item :: rest, ctx)

end Context

/-! ### Classes -/

inductive BuildError where
  | undeclarable (className root : Text)
  | notConstructor (name : Text)
deriving DecidableEq, Repr

def BuildError.message : BuildError → Text
  | undeclarable className root =>
    className ++ " is documented as a class but is neither an alias of " ++ root ++ " nor a " ++
      root ++ ".<Name> subclass"
  | notConstructor name => name ++ " is not a constructor"

/-- The class names parted into those of the root and those of its namespace; the first one that
    is neither is an error. -/
def Settings.partition (s : Settings) : List Text → Except BuildError (List Text × List Text)
  | [] => .ok ([], [])
  | name :: rest =>
    if s.aliases.contains name then
      (s.partition rest).map fun (aliases, classes) => (name :: aliases, classes)
    else if (s.subclassName? name).isSome then
      (s.partition rest).map fun (aliases, classes) => (aliases, name :: classes)
    else .error (.undeclarable name s.rootName)

/-- How far a walk through documentation has come. -/
structure Walk where
  context : Context
  schema : Schema
  aliases : List AliasBlock
  classes : List ClassDecl

namespace Walk

def start (settings : Settings) (schema : Schema) : Walk :=
  ⟨.start settings schema.classNames, schema, [], []⟩

def items (w : Walk) (className owner : Text) : List Member × Walk :=
  let (members, items, ctx) := w.context.buildItems className owner w.schema.items
  (members, { w with context := ctx, schema := { w.schema with items := items } })

def passAlias (w : Walk) (className : Text) : Walk :=
  let (members, w) := w.items className w.context.settings.rootName
  { w with aliases := w.aliases ++ [⟨className, members⟩] }

/-- The parent of a class as it is declared: without the root in front, if it is a class of the
    namespace. -/
def parentName (s : Settings) (parent : Option Text) : Option Text :=
  match parent with
  | none => none
  | some name =>
    if name.isEmpty then none else some ((s.subclassName? name).getD name)

def passClass (w : Walk) (className : Text) (info : ClassDoc) : Walk :=
  let settings := w.context.settings
  let (constructors, entry, ctx) :=
    (w.context.inFile info.file).buildMethod info.toEntry info.name
  let classes := w.schema.classes.insert className { info with toEntry := entry }
  let (members, w) :=
    { w with context := ctx, schema := { w.schema with classes := classes } }.items
      className className
  { w with classes := w.classes ++ [{
      className := className
      name := (settings.subclassName? className).getD className
      parent := parentName settings info.parent
      file := info.file
      members := constructors.map .method ++ members }] }

def passAliases (w : Walk) (classNames : List Text) : Walk := classNames.foldl passAlias w

/-- The walk past the classes of the namespace, up to one that is not documented as a
    constructor. -/
def passClasses (w : Walk) : List Text → Option BuildError × Walk
  | [] => (none, w)
  | className :: rest =>
    match w.schema.classes.get? className with
    | none => w.passClasses rest
    | some info =>
      if info.isConstructor then (w.passClass className info).passClasses rest
      else (some (.notConstructor info.name), w)

def model (w : Walk) : Model :=
  ⟨w.context.settings.rootName, w.aliases, w.classes, w.context.constants, w.context.unknownTypes⟩

end Walk

/-- The outcome of a build: the model or why there is none, the documentation as the build left
    it, and the members that were declared on the way. -/
structure Build where
  result : Except BuildError Model
  schema : Schema
  declared : List Member

namespace Build

def run (settings : Settings) (schema : Schema) : Build :=
  match settings.partition schema.classNames with
  | .error e => ⟨.error e, schema, []⟩
  | .ok (aliases, classes) =>
    let (error, w) := ((Walk.start settings schema).passAliases aliases).passClasses classes
    ⟨match error with
      | some e => .error e
      | none => .ok w.model, w.schema, w.model.members⟩

def passedOver (b : Build) : List UnsupportedDecl :=
  b.declared.filterMap fun
    | .unsupported u => some u
    | _ => none

end Build

end Ambient
