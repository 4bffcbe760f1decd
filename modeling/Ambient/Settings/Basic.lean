/-
  Ambient/Settings/Basic.lean
  ===========================
  **Settings: what is particular to one library.**

  The settings name the root class of a library, the documented classes that are only further
  names for it, how documented types are spelled in TypeScript, and a few corrections.  The
  default settings are those of p5.js.

  A class that is declared inside the namespace of the root class is documented as
  `<root>.<Name>`; `Settings.subclassName?` gives the name behind the root, which is not empty
  and holds no dot (`subclassName?_eq_some_iff`).
-/
import Ambient.Table

namespace Ambient

/-- The constants that a parameter takes, for one that says so in words that cannot be read. -/
structure ConstantOverride where
  member : Text
  param : Text
  values : List Text
deriving DecidableEq, Repr

/-- What is particular to one library. -/
structure Settings where
  /-- The name of the root class and of its namespace. -/
  rootName : Text
  /-- The documented type that stands for the root class. -/
  rootToken : Text
  /-- The documented classes whose members belong to the root class. -/
  aliases : List Text
  /-- The types of the platform, which stay as they are. -/
  externalTypes : List Text
  /-- The TypeScript types of the documented types that are built in. -/
  primitiveTypes : Table Text
  /-- The TypeScript type in the place of a documented type that is not known. -/
  fallbackType : Text
  /-- The documented type of a parameter that takes one of several constants. -/
  constantToken : Text
  /-- The constants of parameters whose descriptions cannot be read. -/
  constantOverrides : List ConstantOverride
  /-- The names of parameters that are reserved words, and the names in their places. -/
  reservedParamNames : Table Text

namespace Settings

def standard : Settings where
  rootName := "p5"
  rootToken := "P5"
  aliases := ["p5", "p5.dom", "p5.sound"]
  externalTypes := ["HTMLCanvasElement", "Float32Array", "Event"]
  primitiveTypes := Table.ofList [
    ("Object", "any"), ("Any", "any"), ("Number", "number"), ("Integer", "number"),
    ("String", "string"), ("Constant", "any"), ("undefined", "undefined"), ("Null", "null"),
    ("Array", "any[]"), ("Boolean", "boolean"), ("*", "any"), ("Void", "void"),
    ("Function", "() => any")]
  fallbackType := "any"
  constantToken := "Constant"
  constantOverrides := [⟨"endShape", "mode", ["CLOSE"]⟩]
  reservedParamNames := Table.ofList [("class", "theClass")]

instance : Inhabited Settings := ⟨standard⟩

/-- The TypeScript types of the documented types that are built in, and of the root class. -/
def typeMap (s : Settings) : Table Text := s.primitiveTypes.insert s.rootToken s.rootName

def qualified (s : Settings) (name : Text) : Text := s.rootName ++ "." ++ name

/-- The part of a class name behind the root, if the class is one of the namespace. -/
def subclassName? (s : Settings) (className : Text) : Option Text :=
  match Text.dropStart? (s.rootName ++ ".") className with
  | none => none
  | some name => if name.isEmpty || name.contains (.scalar '.') then none else some name

def overrideFor (s : Settings) (member param : Text) : Option (List Text) :=
  (s.constantOverrides.find? fun o => o.member = member && o.param = param).map
    ConstantOverride.values

def moduleFile (s : Settings) : Text := s.rootName ++ ".d.ts"

def globalFile (s : Settings) : Text := s.rootName ++ ".global-mode.d.ts"

/-- A class is one of the namespace exactly if its name is the root, a dot, and a name that is
    not empty and holds no dot. -/
theorem subclassName?_eq_some_iff {s : Settings} {className name : Text} :
    s.subclassName? className = some name ↔
      className = s.qualified name ∧ name ≠ [] ∧ CodePoint.scalar '.' ∉ name := by
  unfold subclassName?
  constructor
  · intro h
    split at h
    · exact nomatch h
    · next rest hr =>
      split at h
      · exact nomatch h
      · next hc =>
        simp only [Bool.or_eq_true, List.isEmpty_iff, List.contains_iff_mem, not_or] at hc
        cases h
        exact ⟨Text.dropStart?_eq_some_iff.1 hr, hc⟩
  · rintro ⟨rfl, hne, hdot⟩
    have hr : Text.dropStart? (s.rootName ++ ".") (s.qualified name) = some name :=
      Text.dropStart?_eq_some_iff.2 rfl
    simp [hr, hne, hdot]

end Settings

end Ambient
