/-
  Ambient/Json/Value.lean
  =======================
  **JSON values.**

  A value keeps what the readers of documentation files need of it: integers of any size apart
  from numbers with a point or an exponent, texts with surrogates, and the fields of an object in
  their order.  Besides the numbers of JSON there are a not-a-number and the two infinities.
-/
import Ambient.Table
import Ambient.Number.Shortest
import Ambient.Text.Quoted

namespace Ambient

inductive Json where
  | null
  | bool (b : Bool)
  | integer (n : Int)
  | number (x : Binary64)
  | text (t : Text)
  | array (items : List Json)
  | object (fields : List (Text × Json))

namespace Json

instance : Inhabited Json := ⟨null⟩

/-- Whether the value stands for nothing: null, false, a zero, or an empty text, array or
    object. -/
def isNothing : Json → Bool
  | null => true
  | bool b => !b
  | integer n => n = 0
  | number x => x.isZero
  | text t => t.isEmpty
  | array items => items.isEmpty
  | object fields => fields.isEmpty

/-- The fields of an object, of which the last one with a name wins and the first one with that
    name gives the place. -/
def collapse (fields : List (Text × Json)) : List (Text × Json) :=
  fields.foldl (fun done f => insertEntry f.1 f.2 done) []

/-! ### Values as display text

A default that is no text is documented by the display of its value.  Inside an array or an
object texts are shown in quotes; at the top a text is shown as it is. -/

/-- Numbers stand without an exponent from four places after the point up to sixteen before it,
    and an exponent has two digits at least. -/
def numberLayout : NumberLayout := ⟨-3, 16, 2⟩

mutual

/-- A value as it is shown inside another. -/
def inspect : Json → Text
  | null => "None"
  | bool true => "True"
  | bool false => "False"
  | integer n => Text.ofInt n
  | number x => numberLayout.text x
  | text t => t.quoted
  | array items => "[" ++ Text.join ", " (inspectItems items) ++ "]"
  | object fields => "\x7b" ++ Text.join ", " (inspectFields fields) ++ "\x7d"

def inspectItems : List Json → List Text
  | [] => []
  | item :: rest => inspect item :: inspectItems rest

def inspectFields : List (Text × Json) → List Text
  | [] => []
  | (name, value) :: rest => (name.quoted ++ ": " ++ inspect value) :: inspectFields rest

end

/-- A value as it is shown on its own. -/
def display : Json → Text
  | text t => t
  | v => inspect v

end Json

end Ambient
