/-
  Ambient/Constant/Phrase.lean
  ============================
  **Constants listed in a description.**

  Descriptions list the constants that a parameter takes behind the word "either": *either LEFT,
  RIGHT or CENTER*.  A constant is written in ASCII capitals, digits and underscores, a capital
  first, and no further word character follows it.  Between two constants there may be blanks, a
  comma and the word "or", in this order.  The first phrase that lists a constant counts; one
  that does not is passed over.
-/
import Ambient.Text.Blank
import Ambient.Text.Tag
import Ambient.Text.Word

namespace Ambient

/-- Whether a code point may stand behind the first letter of a constant. -/
def isConstantInner (c : CodePoint) : Bool := c.isAsciiUpper || c.isAsciiDigit || c = '_'

def dropComma : Text → Text
  | .scalar ',' :: rest => rest
  | t => t

def dropOr : Text → Text
  | .scalar 'o' :: .scalar 'r' :: rest =>
    if Text.startsWord rest then .scalar 'o' :: .scalar 'r' :: rest else rest
  | t => t

def afterSeparator (t : Text) : Text :=
  Text.trimStart (dropOr (Text.trimStart (dropComma (Text.trimStart t))))

theorem length_afterSeparator_le (t : Text) : (afterSeparator t).length ≤ t.length := by
  have hcomma : ∀ t : Text, (dropComma t).length ≤ t.length := by
    intro t
    unfold dropComma
    split
    · simp only [List.length_cons]; omega
    · exact Nat.le_refl _
  have hor : ∀ t : Text, (dropOr t).length ≤ t.length := by
    intro t
    unfold dropOr
    split
    · split <;> simp only [List.length_cons] <;> omega
    · exact Nat.le_refl _
  have h1 := Text.length_trimStart_le t
  have h2 := hcomma (Text.trimStart t)
  have h3 := Text.length_trimStart_le (dropComma (Text.trimStart t))
  have h4 := hor (Text.trimStart (dropComma (Text.trimStart t)))
  have h5 := Text.length_trimStart_le (dropOr (Text.trimStart (dropComma (Text.trimStart t))))
  unfold afterSeparator
  omega

def listedConstants : Text → List Text
  | [] => []
  | c :: rest =>
    if c.isAsciiUpper && !Text.startsWord (rest.dropWhile isConstantInner) then
      (c :: rest.takeWhile isConstantInner) ::
        listedConstants (afterSeparator (rest.dropWhile isConstantInner))
    else []
termination_by t => t.length
decreasing_by
  have h1 := length_afterSeparator_le (rest.dropWhile isConstantInner)
  have h2 := (List.dropWhile_suffix isConstantInner (l := rest)).length_le
  simp only [List.length_cons]
  omega

def afterEither? : Text → Option Text
  | c :: rest =>
    if c = 'E' ∨ c = 'e' then
      match Text.dropStart? "ither" rest with
      | some (d :: more) => if d.isBlank then some (Text.trimStart more) else none
      | _ => none
    else none
  | [] => none

/-- The constants of the first phrase that lists any, in a text that stands behind a word
    character or not. -/
def firstListed (behindWord : Bool) : Text → List Text
  | [] => []
  | c :: rest =>
    let here :=
      if behindWord then []
      else
        match afterEither? (c :: rest) with
        | some list => listedConstants list
        | none => []
    if here.isEmpty then firstListed c.isWord rest else here

/-- The constants that a description lists, each once, in order of first appearance. -/
def extractConstants (description : Text) : List Text :=
  (firstListed false (Text.stripMarkup description)).eraseDups

end Ambient
