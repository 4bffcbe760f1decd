/-
  Ambient/File/Path.lean
  ======================
  **Paths.**

  A path has the names between its slashes, without empty ones and without `.`, and stands at the
  root of the files or at no fixed place.  Exactly two slashes in front make a root of their own.
  A `..` stays, since what it leaves may be reached through a link; only `Path.resolve` takes it
  away, for a place without links.

  One path is joined to another by standing behind it, unless it starts at a root, which makes it
  stay as it is.
-/
import Ambient.Text.Basic

namespace Ambient

inductive PathRoot where
  | relative
  | single
  | double
deriving DecidableEq, Repr

structure Path where
  root : PathRoot
  parts : List Text
deriving DecidableEq, Repr

namespace Path

def rootOf : Text → PathRoot
  | .scalar '/' :: .scalar '/' :: .scalar '/' :: _ => .single
  | .scalar '/' :: .scalar '/' :: _ => .double
  | .scalar '/' :: _ => .single
  | _ => .relative

def isPart (name : Text) : Bool := !name.isEmpty && name != Text.ofString "."

def ofText (t : Text) : Path := ⟨rootOf t, (Text.split '/' t).filter isPart⟩

def rootText : PathRoot → Text
  | .relative => []
  | .single => "/"
  | .double => "//"

/-- The text of a path; that of the path without parts is a dot. -/
def text (p : Path) : Text :=
  let t := rootText p.root ++ Text.join "/" p.parts
  if t.isEmpty then "." else t

def isAbsolute (p : Path) : Bool := p.root != .relative

def join (base p : Path) : Path := if p.isAbsolute then p else ⟨base.root, base.parts ++ p.parts⟩

def child (base : Path) (name : Text) : Path := base.join (ofText name)

/-- The path around the last part of a path; the path itself if it has no part. -/
def parent (p : Path) : Path := ⟨p.root, p.parts.dropLast⟩

/-- The parts of a path after each `..` has taken away the part before it. -/
def settle (done : List Text) : List Text → List Text
  | [] => done.reverse
  | part :: rest =>
    if part = ("..") then settle done.tail rest else settle (part :: done) rest

/-- The absolute path without `..` that a path means as seen from a directory. -/
def resolve (directory p : Path) : Path :=
  ⟨.single, settle [] (directory.join p).parts⟩

end Path

end Ambient
