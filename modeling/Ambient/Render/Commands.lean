/-
  Ambient/Render/Commands.lean
  ============================
  **The two forms of a declaration file.**

  A model is written in two forms.  The module form declares the root class with its members, and
  then the namespace with one class for each class of the model.  The global form declares the
  members of the root class once more, each on its own, and then the constant types.

  Members go through the same rules in both forms; the level at which they stand decides.  At the
  margin a method is declared as a function and a property as a variable or, if it is final, as a
  constant.  Further in, a method stands as it is, with `static` in front if it is, and a final
  property is left out.  A method with objections and a property that cannot be declared are
  mentioned in a block of line comments.
-/
import Ambient.Declaration.Basic
import Ambient.Declaration.Check
import Ambient.Render.Sheet

namespace Ambient

/-! ### Members -/

namespace MethodDecl

def lineText (line : Option Int) : Text :=
  match line with
  | some n => Text.ofInt n
  | none => "None"

def declaration (level : Nat) (m : MethodDecl) : Text :=
  if level = 0 then "declare function " ++ m.signature ++ ";"
  else (if m.isStatic then Text.ofString "static " else []) ++ m.signature ++ ";"

def invalidText (m : MethodDecl) : Text :=
  "// Invalid declaration of " ++ m.name ++ "() in " ++ m.file ++ ", line " ++
    lineText m.line ++ ":"

def commands (level : Nat) (m : MethodDecl) : List Command :=
  if m.errors.isEmpty then [.description m.description, .emit (m.declaration level)]
  else
    [.sectionBreak, .emit m.invalidText, .emit "//"] ++
      m.errors.map (fun error => .emit ("//   " ++ error)) ++
      [.emit "//", .emit ("// " ++ m.declaration level), .emit []]

end MethodDecl

namespace PropertyDecl

def invalidText (p : PropertyDecl) : Text :=
  "// Property " ++ Objection.cited p.name ++ ", defined in " ++ p.file ++
    ", is not a valid JS symbol name"

/-- The declaration of a property at the margin. -/
def globalDeclaration (p : PropertyDecl) : Text :=
  "declare " ++ (if p.isFinal then Text.ofString "const" else Text.ofString "var") ++ " " ++
    p.signature ++ ";"

def memberDeclaration (p : PropertyDecl) : Text := p.signature ++ ";"

def commands (level : Nat) (p : PropertyDecl) : List Command :=
  if !p.isValid then [.sectionBreak, .emit p.invalidText, .sectionBreak]
  else if level = 0 then [.description p.doc, .emit p.globalDeclaration]
  else if !p.isFinal then [.description p.doc, .emit p.memberDeclaration]
  else []

end PropertyDecl

namespace UnsupportedDecl

def commentText (u : UnsupportedDecl) : Text :=
  "// Not annotated: " ++ u.label ++ " " ++ Objection.cited u.name

end UnsupportedDecl

namespace Member

/-- The commands that write what a member declares at a level. -/
def bodyCommands (level : Nat) : Member → List Command
  | method m => m.commands level
  | property p => p.commands level
  | unsupported u => [.emit u.commentText]

def commands (level : Nat) (m : Member) : List Command :=
  .sourceFile m.file :: m.bodyCommands level

end Member

/-! ### Blocks -/

def AliasBlock.commands (level : Nat) (b : AliasBlock) : List Command :=
  [.sectionBreak, .emit ("// Properties from " ++ b.className), .sectionBreak] ++
    b.members.flatMap (Member.commands level)

namespace ClassDecl

def openingText (c : ClassDecl) : Text :=
  let parent := c.parent.getD []
  "class " ++ c.name ++ (if parent.isEmpty then [] else " extends " ++ parent) ++ " \x7b"

def commands (level : Nat) (c : ClassDecl) : List Command :=
  [.sourceFile c.file, .emit c.openingText, .indent] ++
    c.members.flatMap (Member.commands (level + 1)) ++
    [.dedent, .emit "\x7d"]

end ClassDecl

def constantDeclaration (name : Text) (values : List Text) : Text :=
  "type " ++ name ++ " = " ++ Text.join " | " (values.map fun value => "typeof " ++ value) ++ ";"

def constantCommands (constants : Table (List Text)) : List Command :=
  if constants.entries.isEmpty then []
  else
    [.sectionBreak, .emit "// Constants", .sectionBreak] ++
      constants.entries.map fun (name, values) => .emit (constantDeclaration name values)

/-! ### Files -/

namespace Model

def moduleCommands (level : Nat) (m : Model) : List Command :=
  [.emit ("declare class " ++ m.rootName ++ " \x7b"), .indent] ++
    m.aliases.flatMap (AliasBlock.commands (level + 1)) ++
    [.dedent, .emit "\x7d\n", .emit ("declare namespace " ++ m.rootName ++ " \x7b"), .indent] ++
    m.classes.flatMap (ClassDecl.commands (level + 1)) ++
    [.dedent, .emit "\x7d\n"]

def referenceText (m : Model) : Text :=
  "///<reference path=\"" ++ m.rootName ++ ".d.ts\" />\n"

def globalCommands (level : Nat) (m : Model) : List Command :=
  .emit m.referenceText :: m.aliases.flatMap (AliasBlock.commands level) ++
    constantCommands m.constants

def renderModule (m : Model) (s : Sheet) : Except SheetError Sheet :=
  s.run (m.moduleCommands s.level)

def renderGlobal (m : Model) (s : Sheet) : Except SheetError Sheet :=
  s.run (m.globalCommands s.level)

end Model

end Ambient
