/-
  Ambient/Web/Redirect.lean
  =========================
  **Where requests go.**

  A request goes to an address with a scheme and a host.  A source without a host is taken for a
  path of no host at all, which can be asked for nothing (`Url.requested`).  A redirection gives a
  location, which may leave out the host or more (`Url.redirected`); a fragment that it leaves out
  is that of the address it comes from.
-/
import Ambient.Web.Reference

namespace Ambient

/-- Why there is no address to go to.  A `location` is the text of a redirection that is no
    address. -/
inductive RouteFault where
  | location (fault : UrlFault)
  | url (fault : UrlFault)
  | host (fault : LabelFault)
  | noScheme (text : Text)
deriving DecidableEq, Repr

namespace RouteFault

def message : RouteFault → Text
  | location fault => "Invalid URL in location header: " ++ fault.message ++ "."
  | url fault => fault.message
  | host fault => fault.message
  | noScheme t => "unknown url type: " ++ t.quoted

end RouteFault

namespace Url

/-- The address if its host stands for a host name, as it must if it is in letters and digits. -/
def checkedHost (u : Url) : Except RouteFault Url :=
  if !Label.mark.isPrefixOf u.host then .ok u
  else
    match Label.nameOfAscii u.host with
    | .error f => .error (.host f)
    | .ok _ => .ok u

def ofRebuilt : Except UrlFault Url → Except RouteFault Url
  | .ok u => .ok u
  | .error f => .error (.url f)

/-- The path of no host that an address without a host is taken for. -/
def withoutHost (u : Url) : Url :=
  ⟨[], [], [], none, .scalar '/' :: u.path.dropWhile (fun (c : CodePoint) => c = '/'), u.query,
    none⟩

def requested (source : Text) : Except RouteFault Url := do
  let u ← ofRebuilt (ofText source)
  if u.isAbsolute then u.checkedHost else return u.withoutHost

def ofLocation (location : Text) : Except RouteFault Url :=
  match ofText location with
  | .ok u => .ok u
  | .error (.unencodable f) => .error (.url (.unencodable f))
  | .error f => .error (.location f)

def redirected (base : Url) (location : Text) : Except RouteFault Url := do
  let u ← ofLocation location
  let u ← if u.scheme.isEmpty then pure u else u.checkedHost
  let u ← if !u.scheme.isEmpty && u.host.isEmpty then ofRebuilt (u.withHost base.hostText)
    else pure u
  let u ← if u.isAbsolute then pure u
    else ofRebuilt (ofText (Reference.resolve base.text u.text))
  let u ← if !base.fragmentText.isEmpty && u.fragmentText.isEmpty then
      ofRebuilt (u.withFragment base.fragmentText)
    else pure u
  u.checkedHost

def beginsWithScheme (t : Text) : Bool :=
  let (start, rest) := before (fun c => c = '/' || c = ':') t
  !start.isEmpty && rest.head? = some (.scalar ':')

/-- The text of an address that is asked for, where an empty fragment counts as none. -/
def askedText (u : Url) : Text :=
  if u.text.getLast? = some (.scalar '#') then u.text.dropLast else u.text

/-- The address if it can be asked for something, which it can if its text without the fragment
    begins like one with a scheme. -/
def askable (u : Url) : Except RouteFault Url :=
  let (front, behind) := upToLast '#' u.text
  if beginsWithScheme (if front.isEmpty then behind else front) then .ok u
  else .error (.noScheme u.askedText)

end Url

end Ambient
