/-
  Ambient/Run/Load.lean
  =====================
  **Loading documentation and settings.**

  Documentation comes from a file or from the web, settings come from a file.  A file is decoded,
  its line ends become line feeds, and then it is read; the body of an answer is read as it is.
  What can be loaded depends on nothing but the bytes of the file or the answer, so the functions
  here take those, and only `Host.loadSchema` and `Host.loadSettings` ask a machine for them.
-/
import Ambient.Doc.Decode
import Ambient.Run.Host
import Ambient.Settings.Decode

namespace Ambient

/-! ### Documentation -/

namespace Schema

def parse (t : Text) : Except Failure Schema :=
  match Json.read t with
  | .error (.malformed complaint remaining) =>
    .error (.schema (.malformed complaint t remaining))
  | .error (.hugeInteger digits) => .error (.hugeInteger digits)
  | .error (.tooDeep container) => .error (.tooDeep container)
  | .ok (.object fields) =>
    match ofFields fields with
    | .fits schema => .ok schema
    | .fails issues => .error (.schema (.layout issues))
  | .ok _ => .error (.schema .notObject)

def ofFile (source : Text) : Except FileFault (List UInt8) → Except Failure Schema
  | .error f => .error (.schema (.unreadable source f))
  | .ok bytes =>
    match Utf8.decode bytes with
    | .error f => .error (.undecodable f)
    | .ok t => parse (Text.unixLines t)

def ofResponse (url : Url) (r : Response) : Except Failure Schema :=
  if r.isSuccess then parse r.body else .error (.web (.status r url.text))

end Schema

def webMarks : List Text := ["http://", "https://"]

def isUrl (source : Text) : Bool := webMarks.any fun mark => mark.isPrefixOf source

/-! ### Settings -/

namespace Settings

def parse (source t : Text) : Except Failure Settings :=
  match Json.readStrict t with
  | none => .error (.settings (.malformed source))
  | some v =>
    match decode v with
    | .fits settings => .ok settings
    | .fails issues => .error (.settings (.layout source issues))

def ofFile (source : Text) : Except FileFault (List UInt8) → Except Failure Settings
  | .error f => .error (.settings (.unreadable source f))
  | .ok bytes =>
    match Utf8.decode bytes with
    | .error f => .error (.undecodable f)
    | .ok t => parse source (Text.unixLines t)

end Settings

/-! ### From a machine -/

namespace Host

variable {m : Type → Type} [Monad m]

/-- What a file under a name gives, which is not looked for if no file can have the name. -/
def readUnder {α : Type} (h : Host m) (source : Text)
    (ofFile : Except FileFault (List UInt8) → Except Failure α) : m (Except Failure α) := do
  let path := Path.ofText source
  match path.fault? with
  | some f => return .error (.path f)
  | none => return ofFile (← h.readFile path)

def readSchema (h : Host m) (source : Text) : m (Except Failure Schema) :=
  h.readUnder source (Schema.ofFile source)

def fetchSchema (h : Host m) (followsRedirects : Bool) (source : Text) :
    m (Except Failure Schema) := do
  match ← h.get followsRedirects source with
  | .error f => return .error (.web f)
  | .ok (response, url) => return Schema.ofResponse url response

def loadSchema (h : Host m) (followsRedirects : Bool) (source : Text) :
    m (Except Failure Schema) :=
  if isUrl source then h.fetchSchema followsRedirects source else h.readSchema source

def loadSettings (h : Host m) (source : Text) : m (Except Failure Settings) :=
  h.readUnder source (Settings.ofFile source)

end Host

end Ambient
