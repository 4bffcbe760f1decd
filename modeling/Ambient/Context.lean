/-
  Ambient/Context.lean
  ====================
  **What is known while documentation is walked through.**

  The context of a walk has the settings, the names of the documented classes, the constant types
  that were found so far with their values, and the documented types that nothing resolved, each
  with the source file in which it was first met.  Only the last two and the current source file
  change during a walk, and they only grow: a constant type may get new values but keeps its
  place, and a type that is recorded as unknown stays with its first file.
-/
import Ambient.Settings.Basic

namespace Ambient

/-- The state of a walk through documentation. -/
structure Context where
  settings : Settings
  knownClasses : List Text
  /-- The constant types found so far, with their values. -/
  constants : Table (List Text)
  /-- The types that nothing resolved, with the source files in which they were first met. -/
  unknownTypes : Table Text
  /-- The source file of the entry that is being read. -/
  sourceFile : Text

namespace Context

def start (settings : Settings) (knownClasses : List Text) : Context :=
  ⟨settings, knownClasses, .empty, .empty, []⟩

def isSubclass (ctx : Context) (name : Text) : Bool :=
  (ctx.settings.subclassName? name).isSome && ctx.knownClasses.contains name

/-- Whether a type is a documented class of the namespace, with the root in front or without. -/
def isKnownClass (ctx : Context) (token : Text) : Bool :=
  ctx.isSubclass token || ctx.isSubclass (ctx.settings.qualified token)

def registerConstant (ctx : Context) (name : Text) (values : List Text) : Context :=
  { ctx with constants := ctx.constants.insert name values }

def recordUnknown (ctx : Context) (token : Text) : Context :=
  { ctx with unknownTypes := ctx.unknownTypes.insertNew token ctx.sourceFile }

def inFile (ctx : Context) (file : Text) : Context := { ctx with sourceFile := file }

/-- The TypeScript type of a word, if the word is a built-in type, a type of the platform, a
    documented class or a constant type. -/
def resolve? (ctx : Context) (token : Text) : Option Text :=
  match ctx.settings.typeMap.get? token with
  | some type => some type
  | none =>
    if ctx.settings.externalTypes.contains token || ctx.isKnownClass token ||
        ctx.constants.contains token then
      some token
    else none

end Context

end Ambient
