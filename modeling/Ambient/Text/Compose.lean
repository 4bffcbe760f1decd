/-
  Ambient/Text/Compose.lean
  =========================
  **Texts in composed form.**

  The same letter can be written as one code point or as a letter and marks behind it, and marks
  of different classes can stand in any order.  A text is in composed form if it has the shortest
  spelling: taken apart, with the marks behind each letter in the order of their classes, and put
  together again, it is what it was.

  All this is about the code points that may stand in the label of a host name, which the tables
  of marks and compositions cover.
-/
import Ambient.Text.Basic
import Ambient.Text.ComposeTable
import Ambient.Text.MarkTable

namespace Ambient.Compose

def classIn (rows : List (Nat × Nat × Nat)) (n : Nat) : Option Nat :=
  (rows.find? fun (first, last, _) => first ≤ n && n ≤ last).map fun (_, _, c) => c

/-- Whether a number is that of a mark without room of its own. -/
def isNonspacing (n : Nat) : Bool := (classIn nonspacingRows n).isSome

def isMark (n : Nat) : Bool := isNonspacing n || (classIn spacingRows n).isSome

/-- The combining class of a number; that of a letter is zero. -/
def combiningClass (n : Nat) : Nat := ((classIn nonspacingRows n).or (classIn spacingRows n)).getD 0

def parts? (n : Nat) : Option (Nat × Nat) :=
  (compositions.find? fun (whole, _, _) => whole = n).map fun (_, first, second) => (first, second)

def whole? (first second : Nat) : Option Nat :=
  (compositions.find? fun (_, a, b) => a = first && b = second).map fun (whole, _, _) => whole

def mostMarks : Nat := 4

/-- A number taken apart, with the marks in front of some others; at most some number of marks is
    taken off. -/
def takenApart : Nat → Nat → List Nat → List Nat
  | 0, n, marks => n :: marks
  | left + 1, n, marks =>
    match parts? n with
    | none => n :: marks
    | some (first, second) => takenApart left first (second :: marks)

/-- A mark put among others: behind those of no higher class. -/
def insertMark (mark : Nat) : List Nat → List Nat
  | [] => [mark]
  | other :: rest =>
    if combiningClass other ≤ combiningClass mark then other :: insertMark mark rest
    else mark :: other :: rest

/-- Numbers with the marks behind each letter in the order of their classes; `marks` holds those
    since the last letter. -/
def ordered (marks : List Nat) : List Nat → List Nat
  | [] => marks
  | n :: rest =>
    if combiningClass n = 0 then marks ++ n :: ordered [] rest
    else ordered (insertMark n marks) rest

/-- Numbers put together behind a letter: each mark is composed with the letter, unless one that
    stays between them has its class or a higher one.  `kept` holds the marks that stay, the last
    one first. -/
def putTogether (letter : Nat) (kept : List Nat) : List Nat → List Nat
  | [] => letter :: kept.reverse
  | n :: rest =>
    let c := combiningClass n
    let isOpen := match kept with
      | [] => true
      | k :: _ => combiningClass k < c
    match if isOpen then whole? letter n else none with
    | some whole => putTogether whole kept rest
    | none =>
      if c = 0 then letter :: kept.reverse ++ putTogether n [] rest
      else putTogether letter (n :: kept) rest

def compose (numbers : List Nat) : List Nat :=
  match ordered [] (numbers.flatMap fun n => takenApart mostMarks n []) with
  | [] => []
  | n :: rest => putTogether n [] rest

end Ambient.Compose

namespace Ambient

def Text.isComposed (t : Text) : Bool :=
  let numbers := t.map CodePoint.code
  Compose.compose numbers = numbers

end Ambient
