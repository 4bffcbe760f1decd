/-
  Ambient/Text/Utf8.lean
  ======================
  **Texts as the bytes of a file.**

  Files hold UTF-8.  A text with a surrogate has no bytes in it.  Reading goes through the bytes
  one by one; the first byte that rules the bytes out as UTF-8 ends the reading with a
  `DecodeFault`, which covers the longest start of a code point that was still possible:

    * a byte that begins no code point faults alone;
    * a byte that does not continue the code point before it faults the bytes of that one;
    * so does the end of the bytes inside a code point.

  The second byte of a code point has a narrower range than the later ones where a longer form
  would repeat a shorter one, name a surrogate, or pass U+10FFFF.
-/
import Ambient.Text.Encoding

namespace Ambient.Utf8

/-! ### Writing -/

def encodeNumber (n : Nat) : List UInt8 :=
  if n < 0x80 then [.ofNat n]
  else if n < 0x800 then [.ofNat (0xC0 + n / 64), .ofNat (0x80 + n % 64)]
  else if n < 0x10000 then
    [.ofNat (0xE0 + n / 4096), .ofNat (0x80 + n / 64 % 64), .ofNat (0x80 + n % 64)]
  else
    [.ofNat (0xF0 + n / 262144), .ofNat (0x80 + n / 4096 % 64), .ofNat (0x80 + n / 64 % 64),
      .ofNat (0x80 + n % 64)]

def encode (t : Text) : Except EncodeFault (List UInt8) :=
  match EncodeFault.of? .utf8 t with
  | some f => .error f
  | none => .ok (t.flatMap fun c => encodeNumber c.code)

/-! ### Reading -/

inductive Reason where
  | badStart
  | badContinuation
  | truncated
deriving DecidableEq, Repr

def Reason.message : Reason → Text
  | badStart => "invalid start byte"
  | badContinuation => "invalid continuation byte"
  | truncated => "unexpected end of data"

structure DecodeFault where
  start : Nat
  count : Nat
  first : UInt8
  reason : Reason
deriving DecidableEq, Repr

def DecodeFault.message (f : DecodeFault) : Text :=
  if f.count = 1 then
    "'utf-8' codec can't decode byte 0x" ++ Text.hexDigits 2 f.first.toNat ++ " in position " ++
      Text.ofNat f.start ++ ": " ++ f.reason.message
  else
    "'utf-8' codec can't decode bytes in position " ++ Text.ofNat f.start ++ "-" ++
      Text.ofNat (f.start + f.count - 1) ++ ": " ++ f.reason.message

/-- A code point of which some bytes are read: its first byte, how many are read and how many
    are to come, the range of the next one, and the number that the bytes so far spell. -/
structure Pending where
  first : UInt8
  seen : Nat
  more : Nat
  low : UInt8
  high : UInt8
  value : Nat
deriving DecidableEq, Repr

/-- What a byte begins: a code point of several bytes, if it begins any. -/
def Pending.ofFirst? (b : UInt8) : Option Pending :=
  if b < 0xC2 then none
  else if b < 0xE0 then some ⟨b, 1, 1, 0x80, 0xBF, b.toNat - 0xC0⟩
  else if b = 0xE0 then some ⟨b, 1, 2, 0xA0, 0xBF, 0⟩
  else if b = 0xED then some ⟨b, 1, 2, 0x80, 0x9F, 0xD⟩
  else if b < 0xF0 then some ⟨b, 1, 2, 0x80, 0xBF, b.toNat - 0xE0⟩
  else if b = 0xF0 then some ⟨b, 1, 3, 0x90, 0xBF, 0⟩
  else if b < 0xF4 then some ⟨b, 1, 3, 0x80, 0xBF, b.toNat - 0xF0⟩
  else if b = 0xF4 then some ⟨b, 1, 3, 0x80, 0x8F, 4⟩
  else none

/-- Reads on from a position; `pending` is the code point that the bytes before it left open,
    and `done` holds the code points before that one, the last one first. -/
def decodeFrom (position : Nat) (pending : Option Pending) (done : Text) :
    List UInt8 → Except DecodeFault Text
  | [] =>
    match pending with
    | none => .ok done.reverse
    | some p => .error ⟨position - p.seen, p.seen, p.first, .truncated⟩
  | b :: rest =>
    match pending with
    | none =>
      if b < 0x80 then
        decodeFrom (position + 1) none (.scalar (Char.ofNat b.toNat) :: done) rest
      else
        match Pending.ofFirst? b with
        | none => .error ⟨position, 1, b, .badStart⟩
        | some p => decodeFrom (position + 1) (some p) done rest
    | some p =>
      if p.low ≤ b ∧ b ≤ p.high then
        let value := p.value * 64 + (b.toNat - 0x80)
        if p.more = 1 then
          decodeFrom (position + 1) none (.scalar (Char.ofNat value) :: done) rest
        else
          decodeFrom (position + 1) (some ⟨p.first, p.seen + 1, p.more - 1, 0x80, 0xBF, value⟩)
            done rest
      else .error ⟨position - p.seen, p.seen, p.first, .badContinuation⟩

def decode (bytes : List UInt8) : Except DecodeFault Text := decodeFrom 0 none [] bytes

def replacement : CodePoint := .scalar (Char.ofNat 0xFFFD)

/-- The text that bytes spell, with a mark in the place of each fault.  The faults that are looked
    for are at most as many as the bytes. -/
def decodeMarked (bytes : List UInt8) : Text := go bytes.length bytes
where
  /-- The text with marks, for at most some number of faults. -/
  go : Nat → List UInt8 → Text
    | 0, _ => []
    | left + 1, bytes =>
      match decode bytes with
      | .ok t => t
      | .error f =>
        (decode (bytes.take f.start)).toOption.getD [] ++
          replacement :: go left (bytes.drop (f.start + f.count))

end Ambient.Utf8
