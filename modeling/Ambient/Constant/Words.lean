/-
  Ambient/Constant/Words.lean
  ===========================
  **Words of a name, and the names of constant types.**

  A name in camel case is cut where a small letter or digit stands before a capital, both of
  ASCII; the pieces in lower case are its words.  The name of a constant type is made of the
  words of the member and the parameter that the constants are for.
-/
import Ambient.Text.Case

namespace Ambient

/-- Whether a new word begins between two neighbours in a name. -/
def isWordStart (before after : CodePoint) : Bool :=
  (before.isAsciiLower || before.isAsciiDigit) && after.isAsciiUpper

def camelPieces : Text → List Text
  | [] => []
  | c :: rest =>
    match rest with
    | [] => [[c]]
    | d :: _ =>
      if isWordStart c d then [c] :: camelPieces rest
      else Text.prependToFirst c (camelPieces rest)

def splitWords (name : Text) : List Text := (camelPieces name).map Text.lower

def makingWord : Text := "create"

/-- The name of the constant type for a parameter of a member.

    A parameter of several words names the type by itself, and so does any parameter of a member
    that makes something.  A parameter that repeats the last word of the member leaves the name
    to the member.  Otherwise the first word of the member stands before the last word of the
    parameter. -/
def constantTypeName (member param : Text) : Text :=
  let paramWords := splitWords param
  let memberWords := splitWords member
  Text.upper
    (if 1 < paramWords.length ∨ memberWords.head? = some makingWord then
      Text.join "_" paramWords
    else if memberWords ≠ [] ∧ memberWords.getLast? = paramWords.getLast? then
      Text.join "_" memberWords
    else (memberWords.head?).getD [] ++ "_" ++ (paramWords.getLast?).getD [])

/-- The first piece begins with what the name begins with. -/
theorem camelPieces_cons (c : CodePoint) (rest : Text) :
    ∃ piece more, camelPieces (c :: rest) = (c :: piece) :: more := by
  cases rest with
  | nil => exact ⟨[], [], rfl⟩
  | cons d rest =>
    by_cases hstart : isWordStart c d = true
    · exact ⟨[], camelPieces (d :: rest), if_pos hstart⟩
    · have hpieces : camelPieces (c :: d :: rest) =
          Text.prependToFirst c (camelPieces (d :: rest)) := if_neg hstart
      rw [hpieces]
      cases camelPieces (d :: rest) with
      | nil => exact ⟨[], [], rfl⟩
      | cons first more => exact ⟨first, more, rfl⟩

/-- The pieces of a name put together are the name. -/
theorem flatten_camelPieces (name : Text) : (camelPieces name).flatten = name := by
  fun_induction camelPieces name with
  | case1 => rfl
  | case2 => rfl
  | case3 c d rest h ih => simp [ih]
  | case4 c d rest h ih =>
    obtain ⟨piece, more, hpieces⟩ := camelPieces_cons d rest
    rw [hpieces] at ih ⊢
    exact congrArg (c :: ·) ih

end Ambient
