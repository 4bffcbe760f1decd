/-
  Ambient/Web/Escape.lean
  =======================
  **Code points as bytes behind percent signs.**

  A web address is of printable ASCII, and each part of it refuses a few code points more.  A code
  point that may not stand in a part stands there as its bytes, each as a percent sign and two
  hexadecimal digits.  The percent sign itself may stand anywhere, so an escape stays as it is.
-/
import Ambient.Text.Utf8

namespace Ambient.Escape

/-- The printable code points of ASCII that may not stand in a user's name and password. -/
def userRefused : List Char := [
  ' ', '"', '#', '<', '>', '?', '\x60', '\x7b', '\x7d', '/', ';', '=', '@', '[', '\\', ']', '^',
  '|']

def hostRefused : List Char := [' ', '#', '/', ':', '<', '>', '?', '@', '[', ']', '^']

def pathRefused : List Char := [' ', '"', '#', '<', '>', '?', '\x60', '\x7b', '\x7d']

def queryRefused : List Char := [' ', '"', '#', '<', '>']

def fragmentRefused : List Char := [' ', '"', '<', '>', '\x60']

def hexByte (b : UInt8) : Text := (Text.hexDigits 2 b.toNat).map fun (c : CodePoint) =>
  if c.isAsciiLower then .scalar (Char.ofNat (c.code - 32)) else c

def escaped (c : CodePoint) : Text :=
  (Utf8.encodeNumber c.code).flatMap fun b => .scalar '%' :: hexByte b

def isPlain (refused : List Char) (c : CodePoint) : Bool :=
  0x20 ≤ c.code && c.code < 0x7F && !refused.any (fun r => c = r)

def escape (refused : List Char) (t : Text) : Except EncodeFault Text :=
  match t.find? CodePoint.isSurrogate with
  | some c => .error ⟨.utf8, [c], 0, 1⟩
  | none =>
    .ok (t.flatMap fun (c : CodePoint) => if isPlain refused c then [c] else escaped c)

/-- The bytes of a text of ASCII in which escapes stand for the bytes they spell. -/
def bytes : Text → List UInt8
  | [] => []
  | .scalar '%' :: a :: b :: rest =>
    match a.hexValue?, b.hexValue? with
    | some x, some y => .ofNat (x * 16 + y) :: bytes rest
    | _, _ => .ofNat 0x25 :: bytes (a :: b :: rest)
  | c :: rest => .ofNat c.code :: bytes rest

/-- A text of ASCII without escapes, where bytes that are no text leave a mark. -/
def unescape (t : Text) : Text := Utf8.decodeMarked (bytes t)

end Ambient.Escape
