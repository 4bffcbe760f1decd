/-
  Ambient/File/PathFault.lean
  ===========================
  **Paths that no file can have.**

  The system wants a path as bytes without a null among them.  A text that has no such bytes is
  refused before any file is looked for; code points without bytes are told before a null is.
-/
import Ambient.File.Path
import Ambient.Text.Encoding

namespace Ambient

/-- Whether a code point stands for one byte of a path that is no UTF-8. -/
def CodePoint.isRawByte (c : CodePoint) : Bool := 0xDC80 ≤ c.code && c.code ≤ 0xDCFF

inductive PathFault where
  | unencodable (fault : EncodeFault)
  | holdsNull
deriving DecidableEq, Repr

namespace PathFault

def message : PathFault → Text
  | unencodable fault => fault.message
  | holdsNull => "embedded null byte"

def ofText? (t : Text) : Option PathFault :=
  match EncodeFault.find? .utf8 CodePoint.isRawByte t with
  | some fault => some (.unencodable fault)
  | none => if t.contains (.scalar (Char.ofNat 0)) then some .holdsNull else none

end PathFault

def Path.fault? (p : Path) : Option PathFault := PathFault.ofText? p.text

end Ambient
