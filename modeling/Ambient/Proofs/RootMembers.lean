/-
  Ambient/Proofs/RootMembers.lean
  ===============================
  **The two forms say the same of the root class.**

  The members of the root class are written twice: further in by the module form and at the margin
  by the global form, and the level decides how each is declared.  What a member comes to in either
  place is a function of the member alone, `Member.forms`, which has the two side by side.  A file
  is what its members come to, one after the other (`AliasBlock.writes_commands`,
  `ClassDecl.writes_commands`), so the two files agree member by member
  (`Model.rootMembers_agree`).
-/
import Ambient.Render.Commands
import Ambient.Proofs.SheetContents

namespace Ambient

open Text (filledLines)
open Sheet (commentLines indentation)

/-! ### Methods -/

namespace MethodDecl

/-- The comment on a method with objections, which ends with what would have declared it. -/
def objectionLines (m : MethodDecl) (declaration : Text) : List Text :=
  filledLines m.invalidText ++ [("//" : Text)] ++
    m.errors.flatMap (fun error => filledLines ("//   " ++ error)) ++ [("//" : Text)] ++
    filledLines ("// " ++ declaration)

def declaredLines (m : MethodDecl) (declaration : Text) : List Text :=
  if m.errors.isEmpty then commentLines m.description ++ filledLines declaration
  else m.objectionLines declaration

/-- The lines of a method inside a class, and on its own. -/
def forms (m : MethodDecl) : List Text × List Text :=
  (m.declaredLines ((if m.isStatic then Text.ofString "static " else []) ++ m.signature ++ ";"),
    m.declaredLines ("declare function " ++ m.signature ++ ";"))

theorem writes_commands (level : Nat) (m : MethodDecl) :
    Writes (m.commands level) (m.declaredLines (m.declaration level)) := by
  unfold commands declaredLines
  split
  · exact (Writes.description _).append (Writes.emit _)
  · have hbar : Writes [.emit "//"] [("//" : Text)] := Writes.emit "//"
    have hhead : Writes [.sectionBreak, .emit m.invalidText, .emit "//"]
        (filledLines m.invalidText ++ [("//" : Text)]) :=
      Writes.sectionBreak.append ((Writes.emit _).append hbar)
    have herrors := Writes.emits (fun error : Text => ("//   " ++ error : Text)) m.errors
    -- the empty line at the end is none that counts
    have hlast : Writes [.emit ("// " ++ m.declaration level), .emit []]
        (filledLines ("// " ++ m.declaration level)) :=
      (Writes.emit _).append_silent (Writes.emit [])
    have hall := ((hhead.append herrors).append hbar).append hlast
    rw [List.append_assoc _ [Command.emit "//"]] at hall
    exact hall

end MethodDecl

/-! ### Properties -/

namespace PropertyDecl

/-- The lines of a property inside a class, and on its own: a final one is only declared there. -/
def forms (p : PropertyDecl) : List Text × List Text :=
  if !p.isValid then (filledLines p.invalidText, filledLines p.invalidText)
  else if p.isFinal then
    ([], commentLines p.doc ++ filledLines ("declare const " ++ p.signature ++ ";"))
  else
    (commentLines p.doc ++ filledLines (p.signature ++ ";"),
      commentLines p.doc ++ filledLines ("declare var " ++ p.signature ++ ";"))

theorem writes_invalid (p : PropertyDecl) :
    Writes [.sectionBreak, .emit p.invalidText, .sectionBreak] (filledLines p.invalidText) := by
  have htext := (Writes.emit p.invalidText).append_silent Writes.sectionBreak
  exact Writes.sectionBreak.append htext

theorem writes_commands_zero (p : PropertyDecl) : Writes (p.commands 0) p.forms.2 := by
  have hdoc := (Writes.description p.doc).append (Writes.emit p.globalDeclaration)
  unfold commands forms
  unfold globalDeclaration at hdoc ⊢
  cases p.isValid with
  | false => exact p.writes_invalid
  | true =>
    cases hfinal : p.isFinal <;> rw [hfinal] at hdoc <;> exact hdoc

theorem writes_commands_succ (level : Nat) (p : PropertyDecl) :
    Writes (p.commands (level + 1)) p.forms.1 := by
  have hdoc := (Writes.description p.doc).append (Writes.emit p.memberDeclaration)
  unfold commands forms
  cases p.isValid with
  | false => exact p.writes_invalid
  | true =>
    cases p.isFinal with
    | false => exact hdoc
    | true => exact Writes.nil

end PropertyDecl

/-! ### Members and blocks -/

namespace Member

/-- The lines of a member in the two forms: inside a class, and on its own. -/
def forms : Member → List Text × List Text
  | method m => m.forms
  | property p => p.forms
  | unsupported u => (filledLines u.commentText, filledLines u.commentText)

theorem writes_commands_zero (m : Member) : Writes (m.commands 0) m.forms.2 := by
  have hfile := Writes.sourceFile m.file
  cases m with
  | method m => exact hfile.append (m.writes_commands 0)
  | property p => exact hfile.append p.writes_commands_zero
  | unsupported u => exact hfile.append (Writes.emit u.commentText)

theorem writes_commands_succ (level : Nat) (m : Member) :
    Writes (m.commands (level + 1)) m.forms.1 := by
  have hfile := Writes.sourceFile m.file
  cases m with
  | method m => exact hfile.append (m.writes_commands (level + 1))
  | property p => exact hfile.append (p.writes_commands_succ level)
  | unsupported u => exact hfile.append (Writes.emit u.commentText)

end Member

namespace AliasBlock

def headingLines (b : AliasBlock) : List Text := filledLines ("// Properties from " ++ b.className)

theorem writes_commands {level : Nat} {lines : Member → List Text}
    (h : ∀ m, Writes (Member.commands level m) (lines m)) (b : AliasBlock) :
    Writes (b.commands level) (b.headingLines ++ b.members.flatMap lines) := by
  have hheading := (Writes.emit ("// Properties from " ++ b.className)).append_silent
    Writes.sectionBreak
  have hmembers : Writes (b.members.flatMap (Member.commands level)) (b.members.flatMap lines) :=
    Writes.flatMap fun m _ => h m
  exact (Writes.sectionBreak.append hheading).append hmembers

end AliasBlock

def ClassDecl.lines (c : ClassDecl) : List Text :=
  filledLines c.openingText ++ (c.members.flatMap (·.forms.1)).map (indentation ++ ·) ++
    [("\x7d" : Text)]

theorem ClassDecl.writes_commands (level : Nat) (c : ClassDecl) :
    Writes (c.commands level) c.lines := by
  have hopening := (Writes.sourceFile c.file).append (Writes.emit c.openingText)
  have hmembers : Writes (c.members.flatMap (Member.commands (level + 1)))
      (c.members.flatMap (·.forms.1)) :=
    Writes.flatMap fun m _ => m.writes_commands_succ level
  have hclose : Writes [.emit "\x7d"] [("\x7d" : Text)] := Writes.emit "\x7d"
  have hall := (hopening.append hmembers.nested).append hclose
  unfold ClassDecl.commands ClassDecl.lines
  simpa [List.append_assoc] using hall

/-! ### Files -/

def constantLines (constants : Table (List Text)) : List Text :=
  if constants.entries.isEmpty then []
  else
    [("// Constants" : Text)] ++
      constants.entries.flatMap fun (name, values) => filledLines (constantDeclaration name values)

theorem writes_constantCommands (constants : Table (List Text)) :
    Writes (constantCommands constants) (constantLines constants) := by
  unfold constantCommands constantLines
  split
  · exact Writes.nil
  · have hheading : Writes [.emit "// Constants"] [("// Constants" : Text)] :=
      Writes.emit "// Constants"
    have hentries := Writes.emits
      (fun entry : Text × List Text => constantDeclaration entry.1 entry.2) constants.entries
    have hfirst := Writes.sectionBreak.append (hheading.append_silent Writes.sectionBreak)
    exact hfirst.append hentries

namespace Model

def rootLines (m : Model) : List Text :=
  m.aliases.flatMap fun b => b.headingLines ++ b.members.flatMap (·.forms.1)

/-- The lines of the global form that declare members of the root class. -/
def globalLines (m : Model) : List Text :=
  m.aliases.flatMap fun b => b.headingLines ++ b.members.flatMap (·.forms.2)

def namespaceLines (m : Model) : List Text := m.classes.flatMap ClassDecl.lines

theorem writes_moduleCommands (level : Nat) (m : Model) :
    Writes (m.moduleCommands level)
      (filledLines ("declare class " ++ m.rootName ++ " \x7b") ++
        m.rootLines.map (indentation ++ ·) ++ [("\x7d" : Text)] ++
        filledLines ("declare namespace " ++ m.rootName ++ " \x7b") ++
        m.namespaceLines.map (indentation ++ ·) ++ [("\x7d" : Text)]) := by
  have hclose : Writes [.emit "\x7d\n"] [("\x7d" : Text)] := Writes.emit "\x7d\n"
  have hroot : Writes (m.aliases.flatMap (AliasBlock.commands (level + 1))) m.rootLines :=
    Writes.flatMap fun b _ => b.writes_commands (Member.writes_commands_succ level)
  have hclasses : Writes (m.classes.flatMap (ClassDecl.commands (level + 1))) m.namespaceLines :=
    Writes.flatMap fun c _ => c.writes_commands (level + 1)
  have hfirst := ((Writes.emit ("declare class " ++ m.rootName ++ " \x7b")).append
    hroot.nested).append hclose
  have hsecond := ((Writes.emit ("declare namespace " ++ m.rootName ++ " \x7b")).append
    hclasses.nested).append hclose
  unfold moduleCommands
  simpa [List.append_assoc] using hfirst.append hsecond

theorem writes_globalCommands (m : Model) :
    Writes (m.globalCommands 0)
      (filledLines m.referenceText ++ m.globalLines ++ constantLines m.constants) := by
  have hroot : Writes (m.aliases.flatMap (AliasBlock.commands 0)) m.globalLines :=
    Writes.flatMap fun b _ => b.writes_commands Member.writes_commands_zero
  exact ((Writes.emit m.referenceText).append hroot).append (writes_constantCommands m.constants)

theorem renderModule_blank (m : Model) :
    ∃ s, m.renderModule .blank = .ok s ∧
      filledLines s.text = filledLines ("declare class " ++ m.rootName ++ " \x7b") ++
        m.rootLines.map (indentation ++ ·) ++ [("\x7d" : Text)] ++
        filledLines ("declare namespace " ++ m.rootName ++ " \x7b") ++
        m.namespaceLines.map (indentation ++ ·) ++ [("\x7d" : Text)] := by
  obtain ⟨s, hrun, hgrows⟩ := m.writes_moduleCommands 0 .blank
  exact ⟨s, hrun, Sheet.filledLines_text hgrows⟩

theorem renderGlobal_blank (m : Model) :
    ∃ s, m.renderGlobal .blank = .ok s ∧
      filledLines s.text =
        filledLines m.referenceText ++ m.globalLines ++ constantLines m.constants := by
  obtain ⟨s, hrun, hgrows⟩ := m.writes_globalCommands .blank
  exact ⟨s, hrun, Sheet.filledLines_text hgrows⟩

/-- **The two files agree on the root members.**  Both forms of a model can be written on a blank
    sheet.  Empty lines apart, between the braces of the root class the module form has, one
    indentation further in, the blocks and members that the global form has after its reference,
    in the same order, each member in its first form where the global form has the second. -/
theorem rootMembers_agree (m : Model) :
    ∃ module global,
      m.renderModule .blank = .ok module ∧ m.renderGlobal .blank = .ok global ∧
      filledLines module.text = filledLines ("declare class " ++ m.rootName ++ " \x7b") ++
        (m.aliases.flatMap fun b => b.headingLines ++ b.members.flatMap (·.forms.1)).map
          (indentation ++ ·) ++ [("\x7d" : Text)] ++
        filledLines ("declare namespace " ++ m.rootName ++ " \x7b") ++
        m.namespaceLines.map (indentation ++ ·) ++ [("\x7d" : Text)] ∧
      filledLines global.text = filledLines m.referenceText ++
        (m.aliases.flatMap fun b => b.headingLines ++ b.members.flatMap (·.forms.2)) ++
        constantLines m.constants := by
  obtain ⟨module, hmodule, hmoduleLines⟩ := m.renderModule_blank
  obtain ⟨global, hglobal, hglobalLines⟩ := m.renderGlobal_blank
  exact ⟨module, global, hmodule, hglobal, hmoduleLines, hglobalLines⟩

end Model

end Ambient
