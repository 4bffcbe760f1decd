/-
  Ambient/Web/Label.lean
  ======================
  **The labels of a host name.**

  A host name in any script is a row of labels between dots.  A label holds letters, digits, marks
  and hyphens, in composed form; a few code points may stand only where their surroundings fit,
  and a label with letters that run from right to left must not mix directions.  A label that is
  not of ASCII is written behind `xn--` in letters and digits.

  `Label.check` looks for what is wrong with a label; what it finds first is told.
-/
import Ambient.Text.Compose
import Ambient.Text.Punycode
import Ambient.Text.Quoted
import Ambient.Web.LabelTable

namespace Ambient

/-- Why a text is no label.  Places are counted from one on. -/
inductive LabelFault where
  | empty
  | tooLong
  | notComposed
  | innerHyphens
  | outerHyphen
  | leadingMark
  | joiner (point : CodePoint) (place : Nat) (label : Text)
  | misplaced (point : CodePoint) (place : Nat) (label : Text)
  | refused (point : CodePoint) (place : Nat) (label : Text)
  | directionOfFirst (label : Text)
  | directionInLeftward (place : Nat)
  | directionInRightward (place : Nat)
  | mixedDigits
  | directionOfLast
  | nothingWritten
  | endsWithHyphen
  | unwritten
  | nameTooLong
deriving DecidableEq, Repr

namespace LabelFault

def numberOf (c : CodePoint) : Text :=
  "U+" ++ (Text.hexDigits (if c.code < 0x10000 then 4 else if c.code < 0x100000 then 5 else 6)
    c.code).map fun (d : CodePoint) =>
      if d.isAsciiLower then .scalar (Char.ofNat (d.code - 32)) else d

def message : LabelFault → Text
  | empty => "Empty Label"
  | tooLong => "Label too long"
  | notComposed => "Label must be in Normalization Form C"
  | innerHyphens => "Label has disallowed hyphens in 3rd and 4th position"
  | outerHyphen => "Label must not start or end with a hyphen"
  | leadingMark => "Label begins with an illegal combining character"
  | joiner c place label =>
    "Unknown codepoint adjacent to joiner " ++ numberOf c ++ " at position " ++
      Text.ofNat place ++ " in " ++ label.quoted
  | misplaced c place label =>
    "Codepoint " ++ numberOf c ++ " not allowed at position " ++ Text.ofNat place ++ " in " ++
      label.quoted
  | refused c place label =>
    "Codepoint " ++ numberOf c ++ " at position " ++ Text.ofNat place ++ " of " ++ label.quoted ++
      " not allowed"
  | directionOfFirst label =>
    "First codepoint in label " ++ label.quoted ++ " must be directionality L, R or AL"
  | directionInLeftward place =>
    "Invalid direction for codepoint at position " ++ Text.ofNat place ++
      " in a right-to-left label"
  | directionInRightward place =>
    "Invalid direction for codepoint at position " ++ Text.ofNat place ++
      " in a left-to-right label"
  | mixedDigits => "Can not mix numeral types in a right-to-left label"
  | directionOfLast => "Label ends with illegal codepoint directionality"
  | nothingWritten => "Malformed A-label, no Punycode eligible content found"
  | endsWithHyphen => "A-label must not end with a hyphen"
  | unwritten => "Invalid A-label"
  | nameTooLong => "Domain too long"

end LabelFault

namespace Label

/-! ### Code points -/

def isPermitted (c : CodePoint) : Bool :=
  permittedRows.any fun (first, last, stride) =>
    first ≤ c.code && c.code ≤ last && (c.code - first) % stride == 0

def isJoiner (c : CodePoint) : Bool := c.code = 0x200C || c.code = 0x200D

/-- The class of the mark that leaves a consonant without its vowel. -/
def viramaClass : Nat := 9

def endsWithVirama (before : Text) : Bool :=
  match before.getLast? with
  | some c => Compose.combiningClass c.code = viramaClass
  | none => false

/-- Whether the first code point of a text that is no mark lies in some spans. -/
def meets (spans : List (List Span)) (t : Text) : Bool :=
  match t.dropWhile fun (c : CodePoint) => Compose.isNonspacing c.code with
  | [] => false
  | c :: _ => spans.any fun s => Span.anyHolds s c.code

/-- Whether an invisible joiner may stand between two texts: behind a consonant that has lost its
    vowel, or, if it keeps letters apart, between letters that would join. -/
def joinerFits (before : Text) (c : CodePoint) (after : Text) : Bool :=
  endsWithVirama before ||
    (c.code = 0x200C && meets [joinsAfterSpans, joinsBothSpans] before.reverse &&
      meets [joinsBeforeSpans, joinsBothSpans] after)

def isArabicDigit (c : CodePoint) : Bool := 0x660 ≤ c.code && c.code ≤ 0x669

def isEasternDigit (c : CodePoint) : Bool := 0x6F0 ≤ c.code && c.code ≤ 0x6F9

/-- Whether a code point may stand between two texts where its surroundings fit; nothing if it may
    stand nowhere. -/
def contextFits? (before : Text) (c : CodePoint) (after : Text) : Option Bool :=
  let label := before ++ c :: after
  if c.code = 0xB7 then
    some (before.getLast? = some (.scalar 'l') && after.head? = some (.scalar 'l'))
  else if c.code = 0x375 then
    some (after.head?.any fun c => Span.anyHolds greekSpans c.code)
  else if c.code = 0x5F3 || c.code = 0x5F4 then
    some (before.getLast?.any fun c => Span.anyHolds hebrewSpans c.code)
  else if c.code = 0x30FB then
    some (label.any fun c => Span.anyHolds japaneseSpans c.code)
  else if isArabicDigit c then some (!label.any isEasternDigit)
  else if isEasternDigit c then some (!label.any isArabicDigit)
  else none

def checkPoint (before : Text) (c : CodePoint) (after : Text) : Option LabelFault :=
  let place := before.length + 1
  let label := before ++ c :: after
  if isPermitted c then none
  else if isJoiner c then
    if joinerFits before c after then none else some (.joiner c place label)
  else
    match contextFits? before c after with
    | some true => none
    | some false => some (.misplaced c place label)
    | none => some (.refused c place label)

def checkPoints (before : Text) : Text → Option LabelFault
  | [] => none
  | c :: after => (checkPoint before c after).or (checkPoints (before ++ [c]) after)

/-! ### Directions -/

inductive Direction where
  | rightward
  | leftward
  | arabicDigit
  | plainDigit
  | neutral
  | mark
deriving DecidableEq, Repr

def direction (c : CodePoint) : Direction :=
  if Span.anyHolds leftwardSpans c.code then .leftward
  else if Span.anyHolds arabicDigitSpans c.code then .arabicDigit
  else if Span.anyHolds plainDigitSpans c.code then .plainDigit
  else if Span.anyHolds neutralSpans c.code then .neutral
  else if Compose.isNonspacing c.code then .mark
  else .rightward

/-- The directions that make a label one that runs from right to left. -/
def Direction.isForeign (d : Direction) : Bool := d = .leftward || d = .arabicDigit

/-- What is wrong with directions in a label that runs from right to left, from a place on;
    `digits` are those it has so far. -/
def checkLeftward (place : Nat) (digits : Option Direction) : List Direction → Option LabelFault
  | [] => none
  | d :: rest =>
    if d = .rightward then some (.directionInLeftward place)
    else if d = .arabicDigit || d = .plainDigit then
      if digits.any fun e => e != d then some .mixedDigits
      else checkLeftward (place + 1) (some d) rest
    else checkLeftward (place + 1) digits rest

/-- What is wrong with the directions of a label.  A label without letters that run from right to
    left, and without their digits, has none that are wrong. -/
def checkDirections (label : Text) : Option LabelFault :=
  let directions := label.map direction
  if !directions.any Direction.isForeign then none
  else
    match directions.head? with
    | some .leftward =>
      match checkLeftward 1 none directions with
      | some f => some f
      | none =>
        match directions.reverse.find? fun d => d != .mark with
        | some .neutral => some .directionOfLast
        | _ => none
    | some .rightward =>
      (directions.findIdx? Direction.isForeign).map fun i => .directionInRightward (i + 1)
    | _ => some (.directionOfFirst label)

/-! ### Labels -/

def mostPoints : Nat := 63

/-- The most code points that a host name may have without the dot at its end. -/
def mostInName : Nat := 253

def check (label : Text) : Option LabelFault :=
  if label.isEmpty then some .empty
  else if mostInName + 1 < label.length then some .tooLong
  else if !label.isComposed then some .notComposed
  else if (label.drop 2).take 2 = ("--") then some .innerHyphens
  else if label.head? = some (.scalar '-') || label.getLast? = some (.scalar '-') then
    some .outerHyphen
  else if label.head?.any fun c => Compose.isMark c.code then some .leadingMark
  else (checkPoints [] label).or (checkDirections label)

def mark : Text := "xn--"

def ofAscii (label : Text) : Except LabelFault Text :=
  let label := label.map CodePoint.asciiLower
  let checked (t : Text) : Except LabelFault Text :=
    match check t with
    | some f => .error f
    | none => .ok t
  match Text.dropStart? mark label with
  | none => checked label
  | some numbers =>
    if numbers.isEmpty then .error .nothingWritten
    else if numbers.getLast? = some (.scalar '-') then .error .endsWithHyphen
    else
      match Punycode.decode? numbers with
      | none => .error .unwritten
      | some t => checked t

def toAscii (label : Text) : Except LabelFault Text :=
  let fitting (t : Text) : Except LabelFault Text :=
    if mostPoints < t.length then .error .tooLong else .ok t
  if label.all fun (c : CodePoint) => c.code < 0x80 then
    match ofAscii label with
    | .error f => .error f
    | .ok _ => fitting label
  else
    match check label with
    | some f => .error f
    | none => fitting (mark ++ Punycode.encode label)

/-! ### Host names -/

def dots : List Nat := [0x2E, 0x3002, 0xFF0E, 0xFF61]

/-- The labels of a host name, and whether a dot stands at its end. -/
def labels (name : Text) : List Text × Bool :=
  let parts := Text.split '.' (name.map fun (c : CodePoint) =>
    if dots.contains c.code then .scalar '.' else c)
  if parts.getLast? = some [] then (parts.dropLast, true) else (parts, false)

def mapLabels (change : Text → Except LabelFault Text) (name : Text) : Except LabelFault Text :=
  if mostInName + 1 < name.length then .error .nameTooLong
  else
    let (parts, isClosed) := labels name
    match parts.mapM change with
    | .error f => .error f
    | .ok parts => .ok (Text.join "." (parts ++ if isClosed then [[]] else []))

def nameToAscii (name : Text) : Except LabelFault Text :=
  match mapLabels toAscii name with
  | .error f => .error f
  | .ok t =>
    if (if t.getLast? = some (.scalar '.') then mostInName + 1 else mostInName) < t.length then
      .error .nameTooLong
    else .ok t

def nameOfAscii (name : Text) : Except LabelFault Text := mapLabels ofAscii name

end Label

end Ambient
