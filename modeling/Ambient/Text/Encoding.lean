/-
  Ambient/Text/Encoding.lean
  ==========================
  **Texts that have no bytes.**

  ASCII has bytes for its own code points alone, UTF-8 for all but the surrogates.  In the names of
  files a surrogate from U+DC80 to U+DCFF stands for one byte that is no UTF-8, so there it has a
  byte after all.

  A text that was to become bytes and has none gives an `EncodeFault`, which covers the first run
  of code points in it that have no bytes.
-/
import Ambient.Text.Quoted

namespace Ambient

inductive Encoding where
  | ascii
  | utf8
deriving DecidableEq, Repr

namespace Encoding

def name : Encoding → Text
  | ascii => "ascii"
  | utf8 => "utf-8"

def reason : Encoding → Text
  | ascii => "ordinal not in range(128)"
  | utf8 => "surrogates not allowed"

def covers : Encoding → CodePoint → Bool
  | ascii, c => c.code < 0x80
  | utf8, c => !c.isSurrogate

end Encoding

/-- Code points without bytes in a text that was to become bytes: the text, and where a run of them
    starts and how many they are. -/
structure EncodeFault where
  encoding : Encoding
  text : Text
  start : Nat
  count : Nat
deriving DecidableEq, Repr

namespace EncodeFault

def message (f : EncodeFault) : Text :=
  "'" ++ f.encoding.name ++ "' codec can't encode character" ++
    (if f.count = 1 then
      " '" ++ ((f.text.drop f.start).take 1).flatMap Text.numbered ++ "' in position " ++
        Text.ofNat f.start
    else
      "s in position " ++ Text.ofNat f.start ++ "-" ++ Text.ofNat (f.start + f.count - 1)) ++
    ": " ++ f.encoding.reason

/-- The first run of code points of a text that an encoding does not cover, where some of them are
    passed over if they stand in front of the others. -/
def find? (encoding : Encoding) (passes : CodePoint → Bool) (t : Text) : Option EncodeFault :=
  let before := t.takeWhile fun (c : CodePoint) => encoding.covers c || passes c
  let run := (t.drop before.length).takeWhile fun (c : CodePoint) => !encoding.covers c
  if run.isEmpty then none else some ⟨encoding, t, before.length, run.length⟩

def of? (encoding : Encoding) (t : Text) : Option EncodeFault := find? encoding (fun _ => false) t

end EncodeFault

end Ambient
