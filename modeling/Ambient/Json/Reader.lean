/-
  Ambient/Json/Reader.lean
  ========================
  **Reading a JSON text.**

  The reader goes through the tokens once, with the containers that are open on a stack.  Its
  `Stage` says what may come next; a token that may not come ends the reading with the complaint
  of that stage about the place of the token, and so does the end of the text.

  There are two ways to read.  `read` takes any JSON text, with texts that hold surrogates; a
  byte order mark in front is a fault of its own, and of the fields of one name in an object only
  the last counts.  `readStrict` reads settings, where a surrogate, a number with too many digits
  in front of its point or too deep a nesting makes the text no JSON, and only whether it is one
  is told; there an object keeps all its fields.

  How deep the containers of any text may stand in each other is no rule of JSON.  A reader that
  calls itself for each container is stopped by its host where too many calls are under way, those
  of its callers included.  `Stage.mostNested` is what is left to a caller that reads a document
  and does nothing else around it; under the command line, which has calls of its own under way,
  there is room for somewhat fewer.  That difference is not modelled, and every caller here has the
  one number.  The limit of settings, `deepest`, belongs to their format and is the same under
  every caller.
-/
import Ambient.Json.Token

namespace Ambient.Json

/-- A container that is open: the items of an array so far, or the fields of an object so far and
    the name whose value is being read; the last ones come first. -/
inductive Frame where
  | array (items : List Json)
  | object (fields : List (Text × Json)) (name : Text)

/-- What may come next inside the containers that are open. -/
inductive Stage where
  | value (stack : List Frame)
  | firstItem (stack : List Frame)
  | name (stack : List Frame) (fields : List (Text × Json))
  | firstName (stack : List Frame)
  | colon (stack : List Frame) (fields : List (Text × Json)) (name : Text)
  | after (stack : List Frame) (v : Json)

namespace Stage

def complaint : Stage → Complaint
  | value _ => .wantsValue
  | firstItem _ => .wantsValue
  | name _ _ => .wantsName
  | firstName _ => .wantsName
  | colon _ _ _ => .wantsColon
  | after [] _ => .extraText
  | after (_ :: _) _ => .wantsComma

/-- How many containers may stand around each other where a document is read on its own. -/
def mostNested : Nat := 990

def enter (stack : List Frame) (container : Container) (inside : Stage) :
    Except Fault (Option Stage) :=
  if mostNested ≤ stack.length then .error (.tooDeep container) else .ok (some inside)

def beginValue (stack : List Frame) : Token → Except Fault (Option Stage)
  | .openBrace => enter stack .object (firstName stack)
  | .openBracket => enter stack .array (firstItem stack)
  | .text t => .ok (some (after stack (.text t)))
  | .scalar v => .ok (some (after stack v))
  | .brokenText fault => .error fault
  | .hugeInteger digits => .error (.hugeInteger digits)
  | _ => .ok none

def beginField (stack : List Frame) (fields : List (Text × Json)) :
    Token → Except Fault (Option Stage)
  | .text t => .ok (some (colon stack fields t))
  | .brokenText fault => .error fault
  | _ => .ok none

/-- What becomes of the fields of an object when it is closed. -/
abbrev Closing := List (Text × Json) → List (Text × Json)

/-- The stage behind a token; nothing if the token may not come. -/
def next (closing : Closing) : Stage → Token → Except Fault (Option Stage)
  | value stack, token => beginValue stack token
  | firstItem stack, .closeBracket => .ok (some (after stack (.array [])))
  | firstItem stack, token => beginValue (.array [] :: stack) token
  | firstName stack, .closeBrace => .ok (some (after stack (.object [])))
  | firstName stack, token => beginField stack [] token
  | name stack fields, token => beginField stack fields token
  | colon stack fields n, .colon => .ok (some (value (.object fields n :: stack)))
  | colon _ _ _, _ => .ok none
  | after (.array items :: stack) v, .comma => .ok (some (value (.array (v :: items) :: stack)))
  | after (.array items :: stack) v, .closeBracket =>
    .ok (some (after stack (.array (v :: items).reverse)))
  | after (.object fields n :: stack) v, .comma => .ok (some (name stack ((n, v) :: fields)))
  | after (.object fields n :: stack) v, .closeBrace =>
    .ok (some (after stack (.object (closing ((n, v) :: fields).reverse))))
  | after _ _, _ => .ok none

def finish (closing : Closing) : Stage → List Placed → Except Fault Json
  | after [] v, [] => .ok v
  | stage, [] => .error (.malformed stage.complaint [])
  | stage, p :: rest =>
    match stage.next closing p.token with
    | .error fault => .error fault
    | .ok none => .error (.malformed stage.complaint p.remaining)
    | .ok (some stage) => finish closing stage rest

end Stage

def ofTokens (closing : Stage.Closing) (tokens : List Placed) : Except Fault Json :=
  (Stage.value []).finish closing tokens

def byteOrderMark : CodePoint := .scalar (Char.ofNat 0xFEFF)

def read (t : Text) : Except Fault Json :=
  if t.head? = some byteOrderMark then .error (.malformed .byteOrderMark t)
  else ofTokens collapse (tokens t)

/-! ### Settings -/

/-- How many containers around a value settings may have. -/
def deepest : Nat := 200

/-- Whether the containers with something in them stay within a depth, given how many are open. -/
def isShallow (depth : Nat) : List Placed → Bool
  | [] => true
  | ⟨_, .openBrace⟩ :: ⟨_, .closeBrace⟩ :: rest => isShallow depth rest
  | ⟨_, .openBracket⟩ :: ⟨_, .closeBracket⟩ :: rest => isShallow depth rest
  | ⟨_, .openBrace⟩ :: rest => depth < deepest && isShallow (depth + 1) rest
  | ⟨_, .openBracket⟩ :: rest => depth < deepest && isShallow (depth + 1) rest
  | ⟨_, .closeBrace⟩ :: rest => isShallow (depth - 1) rest
  | ⟨_, .closeBracket⟩ :: rest => isShallow (depth - 1) rest
  | _ :: rest => isShallow depth rest

def Token.hasSurrogate : Token → Bool
  | .text t => t.hasSurrogate
  | _ => false

/-- Whether a token is a number with a point or an exponent and with more digits in front of them
    than an integer may have. -/
def Placed.isLongNumber : Placed → Bool
  | ⟨remaining, .scalar (.number _)⟩ =>
    let row := remaining.dropWhile fun (c : CodePoint) => c = '-'
    mostDigits < (row.takeWhile CodePoint.isAsciiDigit).length
  | _ => false

def readStrict (t : Text) : Option Json :=
  let tokens := tokens t
  if tokens.any (fun p => p.token.hasSurrogate || p.isLongNumber) || !isShallow 0 tokens then none
  else (ofTokens id tokens).toOption

/-! ### The wording of faults -/

def Complaint.message : Complaint → Text
  | wantsValue => "Expecting value"
  | wantsName => "Expecting property name enclosed in double quotes"
  | wantsColon => "Expecting ':' delimiter"
  | wantsComma => "Expecting ',' delimiter"
  | extraText => "Extra data"
  | unclosedText => "Unterminated string starting at"
  | controlInText => "Invalid control character at"
  | badEscape => "Invalid \\escape"
  | badCodeEscape => "Invalid \\uXXXX escape"
  | byteOrderMark => "Unexpected UTF-8 BOM (decode using utf-8-sig)"

/-- The place in a text from which some text remains, in words: the line and the column, both
    from one on, and the offset.  Only a line feed ends a line here. -/
def placeText (whole remaining : Text) : Text :=
  let offset := whole.length - remaining.length
  let before := whole.take offset
  let line := before.count (.scalar '\n') + 1
  let column := (before.reverse.takeWhile fun c => c != .scalar '\n').length + 1
  "line " ++ Text.ofNat line ++ " column " ++ Text.ofNat column ++ " (char " ++
    Text.ofNat offset ++ ")"

def complaintText (complaint : Complaint) (whole remaining : Text) : Text :=
  complaint.message ++ ": " ++ placeText whole remaining

def Container.name : Container → Text
  | array => "array"
  | object => "object"

def tooDeepText (container : Container) : Text :=
  "maximum recursion depth exceeded while decoding a JSON " ++ container.name ++
    " from a unicode string"

def hugeIntegerText (digits : Nat) : Text :=
  "Exceeds the limit (4300 digits) for integer string conversion: value has " ++
    Text.ofNat digits ++
    " digits; use sys.set_int_max_str_digits() to increase the limit"

end Ambient.Json
