/-
  Ambient/Run/Host.lean
  =====================
  **What a run asks of the machine it runs on.**

  A run reads and writes files, makes directories, fetches addresses, and wants to know where it
  is.  `Host` has one operation for each of these, in any monad, so that the same run goes on on a
  real machine and on a `World`, which has all that a run can see of a machine as a value.
-/
import Ambient.Run.Failure

namespace Ambient

/-- The operations that a run asks of a machine. -/
structure Host (m : Type → Type) where
  /-- The bytes of the file under a path. -/
  readFile : Path → m (Except FileFault (List UInt8))
  /-- Makes a directory under a path, and the directories around it. -/
  makeDirectories : Path → m (Except FileFault Unit)
  /-- Puts a file under a path. -/
  writeFile : Path → List UInt8 → m (Except FileFault Unit)
  /-- The answer for an address. -/
  fetch : Url → m (Except WebFault Response)
  /-- The directory that paths are followed from. -/
  workingDirectory : m Path

/-- All that a run can see of a machine. -/
structure World where
  files : FileTree
  web : Web
  workingDirectory : Path

namespace World

def changeFiles (change : FileTree → Except FileFault FileTree) :
    StateM World (Except FileFault Unit) := fun world =>
  match change world.files with
  | .error f => (.error f, world)
  | .ok files => (.ok (), { world with files := files })

def host : Host (StateM World) where
  readFile path := fun world => (world.files.read path, world)
  makeDirectories path := changeFiles fun files => files.makeDirectories path
  writeFile path bytes := changeFiles fun files => files.write path bytes
  fetch url := fun world => (world.web.get url.text, world)
  workingDirectory := fun world => (world.workingDirectory, world)

end World

namespace Host

variable {m : Type → Type} [Monad m]

/-- What comes of writing under a path, which is not begun if no file can have the path. -/
def onPath {α : Type} (path : Path) (writing : m (Except FileFault α)) : m (Except Failure α) := do
  match path.fault? with
  | some f => return .error (.path f)
  | none =>
    match ← writing with
    | .error f => return .error (.unwritable f)
    | .ok a => return .ok a

/-- Puts a text into a file under a path, with the directories around it.  A text that has no
    bytes leaves an empty file. -/
def writeText (h : Host m) (path : Path) (t : Text) : m (Except Failure Unit) := do
  match ← onPath path.parent (h.makeDirectories path.parent) with
  | .error f => return .error f
  | .ok () =>
    let bytes := Utf8.encode t
    match ← onPath path (h.writeFile path (bytes.toOption.getD [])) with
    | .error f => return .error f
    | .ok () =>
      match bytes with
      | .error f => return .error (.unencodable f)
      | .ok _ => return .ok ()

/-- The answer for an address, and the address that it redirects to if it does. -/
def ask (h : Host m) (url : Url) : m (Except WebFault (Response × Option Url)) := do
  match url.askable with
  | .error f => return .error (.noRoute f)
  | .ok url =>
    match ← h.fetch url with
    | .error f => return .error f
    | .ok response =>
      match response.redirect?.mapM url.redirected with
      | .error f => return .error (.noRoute f)
      | .ok next => return .ok (response, next)

/-- The answer for an address and the address that gave it, where at most some number of
    redirections is followed. -/
def follow (h : Host m) : Nat → Url → m (Except WebFault (Response × Url))
  | left, url => do
    match ← h.ask url with
    | .error f => return .error f
    | .ok (response, next) =>
      match next, left with
      | none, _ => return .ok (response, url)
      | some _, 0 => return .error .tooManyRedirects
      | some next, left + 1 => h.follow left next

def get (h : Host m) (followsRedirects : Bool) (source : Text) :
    m (Except WebFault (Response × Url)) := do
  match Url.requested source with
  | .error f => return .error (.noRoute f)
  | .ok url =>
    if followsRedirects then h.follow mostRedirects url
    else
      match ← h.ask url with
      | .error f => return .error f
      | .ok (response, _) => return .ok (response, url)

end Host

end Ambient
