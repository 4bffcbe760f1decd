/-
  Ambient/Web/Url.lean
  ====================
  **Addresses on the web.**

  An address has a scheme, a user, a host with a number behind it, a path, a query and a fragment,
  of which all but the path may be absent.  Addresses are brought into one form when they are
  read: the scheme and the host in lower case and the host in ASCII, the number behind the host in
  plain digits and without one that the scheme implies, the path without `.` and `..`, and with
  every code point that may not stand in a part as its bytes behind percent signs.

  What cannot be brought into this form is no address and gives a `UrlFault`.
-/
import Ambient.Text.Blank
import Ambient.Text.Word
import Ambient.Text.Case
import Ambient.Web.Address
import Ambient.Web.Escape
import Ambient.Web.Label

namespace Ambient

inductive UrlPart where
  | scheme
  | authority
  | path
  | query
  | fragment
deriving DecidableEq, Repr

def UrlPart.name : UrlPart → Text
  | scheme => "scheme"
  | authority => "authority"
  | path => "path"
  | query => "query"
  | fragment => "fragment"

inductive UrlFault where
  | tooLong
  | unprintable (point : CodePoint) (position : Nat)
  | longPart (part : UrlPart)
  | unprintableIn (part : UrlPart) (point : CodePoint) (position : Nat)
  | badNumber (t : Text)
  | badQuad (host : Text)
  | badGroups (host : Text)
  | badName (host : Text)
  | loosePath
  | slashesWithoutHost
  | colonFirst
  | unencodable (fault : EncodeFault)
deriving DecidableEq, Repr

namespace UrlFault

def message : UrlFault → Text
  | tooLong => "URL too long"
  | unprintable c position =>
    "Invalid non-printable ASCII character in URL, " ++ Text.quoted [c] ++ " at position " ++
      Text.ofNat position ++ "."
  | longPart part => "URL component '" ++ part.name ++ "' too long"
  | unprintableIn part c position =>
    "Invalid non-printable ASCII character in URL " ++ part.name ++ " component, " ++
      Text.quoted [c] ++ " at position " ++ Text.ofNat position ++ "."
  | badNumber t => "Invalid port: " ++ t.quoted
  | badQuad host => "Invalid IPv4 address: " ++ host.quoted
  | badGroups host => "Invalid IPv6 address: " ++ host.quoted
  | badName host => "Invalid IDNA hostname: " ++ host.quoted
  | loosePath => "For absolute URLs, path must be empty or begin with '/'"
  | slashesWithoutHost => "Relative URLs cannot have a path starting with '//'"
  | colonFirst => "Relative URLs cannot have a path starting with ':'"
  | unencodable fault => fault.message

end UrlFault

/-- An address.  The scheme, the user and the host are empty if they are absent. -/
structure Url where
  scheme : Text
  user : Text
  host : Text
  number : Option Int
  path : Text
  query : Option Text
  fragment : Option Text
deriving DecidableEq, Repr

namespace Url

/-! ### Cutting texts -/

/-- The text in front of the first code point of a kind, and the text from there on. -/
def before (stop : CodePoint → Bool) (t : Text) : Text × Text :=
  (t.takeWhile fun c => !stop c, t.dropWhile fun c => !stop c)

/-- The part of a text behind a mark, if the text begins with it, up to a code point of a kind. -/
def behind (mark : Text) (stop : CodePoint → Bool) (t : Text) : Option Text × Text :=
  match Text.dropStart? mark t with
  | none => (none, t)
  | some rest => (some (before stop rest).1, (before stop rest).2)

/-- The text up to the last code point of a kind, that one included, and the text behind it. -/
def upToLast (c : CodePoint) (t : Text) : Text × Text :=
  let behind := (t.reverse.takeWhile fun d => d != c).reverse
  (t.take (t.length - behind.length), behind)

/-! ### Single parts -/

def impliedNumbers : List (Text × Int) :=
  [("ftp", 21), ("http", 80), ("https", 443), ("ws", 80), ("wss", 443)]

def mostDigits : Nat := 4300

def digits? (t : Text) : Option Nat :=
  let rows := Text.split '_' t
  if rows.any List.isEmpty || mostDigits < rows.flatten.length then none
  else rows.flatten.foldlM (fun n (c : CodePoint) => c.decimalValue?.map fun d => 10 * n + d) 0

def number? (t : Text) : Option Int :=
  match t.trim with
  | .scalar '-' :: rest => (digits? rest).map fun n => -(n : Int)
  | .scalar '+' :: rest => (digits? rest).map fun n => (n : Int)
  | t => (digits? t).map fun n => (n : Int)

/-- The number behind a host in one form: none if the scheme implies it.  Only a scheme in lower
    case implies one. -/
def settledNumber (scheme t : Text) : Except UrlFault (Option Int) :=
  if t.isEmpty then .ok none
  else
    match number? t with
    | none => .error (.badNumber t)
    | some n => .ok (if impliedNumbers.lookup scheme = some n then none else some n)

def isBracketed (host : Text) : Bool :=
  host.head? = some (.scalar '[') && 1 < host.length && host.getLast? = some (.scalar ']')

def ofEscape : Except EncodeFault Text → Except UrlFault Text
  | .ok t => .ok t
  | .error f => .error (.unencodable f)

/-- A host in one form.  A bracketed one loses its brackets. -/
def settledHost (host : Text) : Except UrlFault Text :=
  if host.isEmpty then .ok []
  else if Address.resemblesQuad host then
    if Address.isQuad host then .ok host else .error (.badQuad host)
  else if isBracketed host then
    let address := host.tail.dropLast
    if Address.isGrouped address then .ok address else .error (.badGroups host)
  else if host.all fun (c : CodePoint) => c.code < 0x80 then
    ofEscape (Escape.escape Escape.hostRefused (host.map CodePoint.asciiLower))
  else
    match Label.nameToAscii (Text.lower host) with
    | .ok name => .ok name
    | .error _ => .error (.badName host)

/-- The parts of a path without `.`, where each `..` takes away the part before it; what stands in
    front of the first slash stays if it is empty and alone. -/
def settle (done : List Text) : List Text → List Text
  | [] => done.reverse
  | part :: rest =>
    if part = (".") then settle done rest
    else if part = ("..") then settle (if done = [[]] then done else done.tail) rest
    else settle (part :: done) rest

def settledPath (path : Text) : Text := Text.join "/" (settle [] (Text.split '/' path))

/-! ### Addresses from their parts -/

/-- The user, the host and the text behind it of an authority.  The host ends at a colon unless it
    is bracketed. -/
def authorityParts (authority : Text) : Text × Text × Text :=
  let (user, rest) := upToLast '@' authority
  let (bracketed, behindBracket) := upToLast ']' rest
  let (host, rest) :=
    if rest.head? = some (.scalar '[') && !bracketed.isEmpty then (bracketed, behindBracket)
    else before (fun c => c = ':') rest
  (user.dropLast, host, if rest.head? = some (.scalar ':') then rest.tail else rest)

/-- What is wrong with a path where there is a scheme or a host. -/
def pathFault? (hasScheme hasAuthority : Bool) (path : Text) : Option UrlFault :=
  if hasAuthority then
    if path.isEmpty || path.head? = some (.scalar '/') then none else some .loosePath
  else if hasScheme then none
  else if ("//" : Text).isPrefixOf path then some .slashesWithoutHost
  else if path.head? = some (.scalar ':') then some .colonFirst
  else none

def settledOption (refused : List Char) : Option Text → Except UrlFault (Option Text)
  | none => .ok none
  | some t => (ofEscape (Escape.escape refused t)).map some

/-- The address with some parts, where another host may stand in the place of the one in the
    authority. -/
def ofParts (otherHost : Option Text) (scheme authority path : Text)
    (query fragment : Option Text) : Except UrlFault Url := do
  let (user, host, number) := authorityParts authority
  let user ← ofEscape (Escape.escape Escape.userRefused user)
  let host ← settledHost (otherHost.getD host)
  let number ← settledNumber scheme number
  let hasAuthority := !user.isEmpty || !host.isEmpty || number.isSome
  match pathFault? (!scheme.isEmpty) hasAuthority path with
  | some f => .error f
  | none =>
    let path := if !scheme.isEmpty || hasAuthority then settledPath path else path
    return {
      scheme := scheme.map CodePoint.asciiLower
      user := user
      host := host
      number := number
      path := ← ofEscape (Escape.escape Escape.pathRefused path)
      query := ← settledOption Escape.queryRefused query
      fragment := ← settledOption Escape.fragmentRefused fragment }

/-! ### Addresses from texts -/

def isScheme : Text → Bool
  | [] => true
  | c :: rest =>
    (c.isAsciiUpper || c.isAsciiLower) && rest.all fun c =>
      c.isAsciiUpper || c.isAsciiLower || c.isAsciiDigit || c = '+' || c = '.' || c = '-'

/-- The length of the longest text that is read as an address or as a part of one. -/
def longest : Nat := 65536

def unprintable? (t : Text) : Option (CodePoint × Nat) :=
  let i := t.findIdx fun (c : CodePoint) => c.code < 0x20 || c.code = 0x7F
  (t[i]?).map fun c => (c, i)

def ofText (t : Text) : Except UrlFault Url :=
  if longest < t.length then .error .tooLong
  else
    match unprintable? t with
    | some (c, i) => .error (.unprintable c i)
    | none =>
      let (start, rest) := before (fun c => c = ':') t
      let (scheme, t) := if isScheme start && !rest.isEmpty then (start, rest.tail) else ([], t)
      let (authority, t) := behind "//" (fun c => c = '/' || c = '?' || c = '#') t
      let (path, t) := before (fun c => c = '?' || c = '#') t
      let (query, t) := behind "?" (fun c => c = '#') t
      let (fragment, _) := behind "#" (fun _ => false) t
      ofParts none scheme (authority.getD []) path query fragment

def marked (mark : Text) : Option Text → Text
  | none => []
  | some t => mark ++ t

/-- The host of an address as it stands in a text: in brackets if it is given by groups. -/
def hostText (u : Url) : Text :=
  if u.host.contains (.scalar ':') then "[" ++ u.host ++ "]" else u.host

def authority (u : Url) : Text :=
  (if u.user.isEmpty then [] else u.user ++ "@") ++ u.hostText ++
    marked ":" (u.number.map Text.ofInt)

def text (u : Url) : Text :=
  (if u.scheme.isEmpty then [] else u.scheme ++ ":") ++
    (if u.authority.isEmpty then [] else "//" ++ u.authority) ++ u.path ++ marked "?" u.query ++
    marked "#" u.fragment

/-! ### Addresses from others -/

def isAbsolute (u : Url) : Bool := !u.scheme.isEmpty && !u.host.isEmpty

def partFault? (part : UrlPart) (t : Text) : Option UrlFault :=
  if longest < t.length then some (.longPart part)
  else (unprintable? t).map fun (c, i) => .unprintableIn part c i

/-- The address put together once more, with another fragment and perhaps another host. -/
def rebuilt (u : Url) (otherHost fragment : Option Text) : Except UrlFault Url :=
  let parts := [(UrlPart.scheme, some u.scheme), (.authority, some u.authority),
    (.path, some u.path), (.query, u.query), (.fragment, fragment)]
  match parts.findSome? fun (part, t) => t.bind (partFault? part) with
  | some f => .error f
  | none => ofParts otherHost u.scheme u.authority u.path u.query fragment

def withHost (u : Url) (host : Text) : Except UrlFault Url := u.rebuilt (some host) u.fragment

def fragmentText (u : Url) : Text := Escape.unescape (u.fragment.getD [])

/-- The address with a fragment, which is given as it is meant. -/
def withFragment (u : Url) (fragment : Text) : Except UrlFault Url := u.rebuilt none (some fragment)

end Url

end Ambient
