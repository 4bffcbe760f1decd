/-
  Ambient/File/Tree.lean
  ======================
  **Files and directories around a working directory.**

  A `FileTree` has files and directories, each at its `Place`.  A path is followed name by name,
  and each name must be looked up in a directory; `..` goes back, and may leave the working
  directory.  The directories above that one, and the root of all files, are there from the start,
  and nothing else is outside of it; how many levels lie between them is not known.

  An operation that cannot be done gives a `FileFault`, and then the tree stays as it was.
-/
import Ambient.File.PathFault
import Ambient.Text.Utf8

namespace Ambient

inductive FileFault where
  | notFound
  | alreadyThere
  | notDirectory
  | isDirectory
  | nameTooLong
deriving DecidableEq, Repr

namespace FileFault

def number : FileFault → Nat
  | notFound => 2
  | alreadyThere => 17
  | notDirectory => 20
  | isDirectory => 21
  | nameTooLong => 36

def reason : FileFault → Text
  | notFound => "No such file or directory"
  | alreadyThere => "File exists"
  | notDirectory => "Not a directory"
  | isDirectory => "Is a directory"
  | nameTooLong => "File name too long"

def message (f : FileFault) (p : Path) : Text :=
  "[Errno " ++ Text.ofNat f.number ++ "] " ++ f.reason ++ ": " ++ p.text.quoted

end FileFault

inductive Node where
  | directory
  | file (bytes : List UInt8)
deriving DecidableEq, Repr

/-- A directory that is there from the start: the root of all files, or the one some levels above
    the working directory, which is itself no level above. -/
inductive Base where
  | root
  | above (levels : Nat)
deriving DecidableEq, Repr

/-- Where a path leads: to a directory that is there from the start, and on through some names. -/
structure Place where
  base : Base
  names : List Text
deriving DecidableEq, Repr

namespace Place

def here : Place := ⟨.above 0, []⟩

/-- The place around a place; that around the root is the root. -/
def outside : Place → Place
  | ⟨.root, []⟩ => ⟨.root, []⟩
  | ⟨.above n, []⟩ => ⟨.above (n + 1), []⟩
  | ⟨base, names⟩ => ⟨base, names.dropLast⟩

def step (p : Place) (name : Text) : Place :=
  if name = ("..") then p.outside else { p with names := p.names ++ [name] }

end Place

/-- The files and directories that are known, each at the place where it stands. -/
structure FileTree where
  nodes : List (Place × Node)

namespace FileTree

def empty : FileTree := ⟨[]⟩

instance : Inhabited FileTree := ⟨empty⟩

def nodeAt (t : FileTree) (p : Place) : Option Node :=
  if p.names.isEmpty then some .directory else t.nodes.lookup p

/-- How many bytes a text takes in a file name. -/
def nameLength : Text → Nat
  | [] => 0
  | c :: rest =>
    (if c.isRawByte then 1 else (Utf8.encodeNumber c.code).length) + nameLength rest

def walk (t : FileTree) (here : Place) : List Text → Except FileFault Place
  | [] => .ok here
  | name :: rest =>
    match t.nodeAt here with
    | none => .error .notFound
    | some (.file _) => .error .notDirectory
    | some .directory =>
      if 255 < nameLength name then .error .nameTooLong else t.walk (here.step name) rest

def locate (t : FileTree) (p : Path) : Except FileFault Place :=
  if 4096 ≤ nameLength p.text then .error .nameTooLong
  else t.walk (if p.isAbsolute then ⟨.root, []⟩ else .here) p.parts

def node? (t : FileTree) (p : Path) : Except FileFault (Option Node) := (t.locate p).map t.nodeAt

def read (t : FileTree) (p : Path) : Except FileFault (List UInt8) :=
  match t.node? p with
  | .error f => .error f
  | .ok none => .error .notFound
  | .ok (some .directory) => .error .isDirectory
  | .ok (some (.file bytes)) => .ok bytes

/-- The tree with a node at a place: in that of what stands there, or as the last one. -/
def put (t : FileTree) (p : Place) (node : Node) : FileTree := ⟨go t.nodes⟩
where
  /-- The nodes with the one put among them. -/
  go : List (Place × Node) → List (Place × Node)
    | [] => [(p, node)]
    | (q, n) :: rest => if q = p then (q, node) :: rest else (q, n) :: go rest

def write (t : FileTree) (p : Path) (bytes : List UInt8) : Except FileFault FileTree :=
  match t.locate p with
  | .error f => .error f
  | .ok place =>
    match t.nodeAt place with
    | some .directory => .error .isDirectory
    | _ => .ok (t.put place (.file bytes))

def isDirectory (t : FileTree) (p : Path) : Bool :=
  match t.node? p with
  | .ok (some .directory) => true
  | _ => false

/-- The tree with a directory under a path; the one around it must be there, and nothing may be
    under the path yet. -/
def makeOne (t : FileTree) (p : Path) : Except FileFault FileTree :=
  match t.locate p with
  | .error f => .error f
  | .ok place =>
    match t.nodeAt place with
    | some _ => .error .alreadyThere
    | none => .ok (t.put place .directory)

/-- The tree with a directory under a path, unless there is one; the directories around it must
    be there. -/
def ensureOne (t : FileTree) (p : Path) : Except FileFault FileTree :=
  match t.makeOne p with
  | .ok t => .ok t
  | .error .notFound => .error .notFound
  | .error f => if t.isDirectory p then .ok t else .error f

def makeParts (t : FileTree) (start : PathRoot) (parts : List Text) : Except FileFault FileTree :=
  match t.makeOne ⟨start, parts⟩ with
  | .ok t => .ok t
  | .error .notFound =>
    if _h : parts = [] then .error .notFound
    else
      match makeParts t start parts.dropLast with
      | .error f => .error f
      | .ok t => t.ensureOne ⟨start, parts⟩
  | .error f => if t.isDirectory ⟨start, parts⟩ then .ok t else .error f
termination_by parts.length
decreasing_by
  rw [List.length_dropLast]
  have := List.length_pos_iff.2 _h
  omega

def makeDirectories (t : FileTree) (p : Path) : Except FileFault FileTree :=
  t.makeParts p.root p.parts

def files (t : FileTree) : List (Text × List UInt8) :=
  t.nodes.filterMap fun
    | (⟨.above 0, names⟩, .file bytes) => some (Text.join "/" names, bytes)
    | _ => none

end FileTree

end Ambient
