/-
  Ambient/Web/Reference.lean
  ==========================
  **Addresses that are meant from another one.**

  A reference may leave out parts of an address: what it leaves out is taken from the address that
  it is meant from, up to the first part that it has itself.  A relative path goes on from the
  directory of the other path, and `.` and `..` in it are followed.

  Only some schemes have addresses of such parts, and in some of those the last part of a path may
  have parameters behind a semicolon, which are no part of its name.  An empty query or fragment
  counts as none here.
-/
import Ambient.Web.Url

namespace Ambient

/-- A text cut into the parts of an address, of which any may be empty. -/
structure Reference where
  scheme : Text
  authority : Text
  path : Text
  params : Text
  query : Text
  fragment : Text
deriving DecidableEq, Repr

namespace Reference

def relativeSchemes : List Text := [
  "ftp", "http", "gopher", "nntp", "imap", "wais", "file", "https", "shttp", "mms", "prospero",
  "rtsp", "rtsps", "rtspu", "sftp", "svn", "svn+ssh", "ws", "wss"]

def paramSchemes : List Text := [
  "", "ftp", "hdl", "prospero", "http", "imap", "https", "shttp", "rtsp", "rtsps", "rtspu", "sip",
  "sips", "mms", "sftp", "tel"]

/-- The text up to the first semicolon in the last part of a path, and the parameters behind it. -/
def cutParams (path : Text) : Text × Text :=
  let (front, last) := Url.upToLast '/' path
  let (name, rest) := Url.before (fun c => c = ';') last
  (front ++ name, rest.tail)

/-- The reference of a text, with a scheme that counts if it has none. -/
def ofText (scheme t : Text) : Reference :=
  let (start, rest) := Url.before (fun c => c = ':') t
  let (scheme, t) :=
    if !start.isEmpty && Url.isScheme start && !rest.isEmpty then
      (start.map CodePoint.asciiLower, rest.tail)
    else (scheme, t)
  let (authority, t) := Url.behind "//" (fun c => c = '/' || c = '?' || c = '#') t
  let (t, fragment) := Url.before (fun c => c = '#') t
  let (path, query) := Url.before (fun c => c = '?') t
  let (path, params) := if paramSchemes.contains scheme then cutParams path else (path, [])
  ⟨scheme, authority.getD [], path, params, query.tail, fragment.tail⟩

def marked (mark part : Text) : Text := if part.isEmpty then [] else mark ++ part

/-- The text of a reference with one of the schemes whose addresses can be left out in part. -/
def text (r : Reference) : Text :=
  let path := r.path ++ marked ";" r.params
  let path :=
    if r.authority.isEmpty && ("//" : Text).isPrefixOf path then path
    else "//" ++ r.authority ++
      (if path.isEmpty || path.head? = some (.scalar '/') then path else "/" ++ path)
  r.scheme ++ ":" ++ path ++ marked "?" r.query ++ marked "#" r.fragment

/-- The parts of a path from some parts on, where `.` is passed over and `..` takes away the part
    before it. -/
def follow (done : List Text) : List Text → List Text
  | [] => done.reverse
  | part :: rest =>
    if part = (".") then follow done rest
    else if part = ("..") then follow done.tail rest
    else follow (part :: done) rest

def withoutGaps (parts : List Text) : List Text :=
  parts.take 1 ++ (parts.drop 1).dropLast.filter (fun part => !part.isEmpty) ++
    (parts.drop 1).getLast?.toList

def pathFrom (base path : Text) : Text :=
  let parts := Text.split '/' path
  let parts :=
    if path.head? = some (.scalar '/') then parts
    else
      let here := Text.split '/' base
      withoutGaps ((if here.getLast? = some [] then here else here.dropLast) ++ parts)
  let isDirectory := parts.getLast? = some (".") || parts.getLast? = some ("..")
  let path := Text.join "/" (follow [] parts ++ if isDirectory then [[]] else [])
  if path.isEmpty then "/" else path

/-- The reference that another one means from a reference of the same scheme. -/
def meantFrom (base r : Reference) : Reference :=
  if !r.authority.isEmpty then r
  else if r.path.isEmpty && r.params.isEmpty then
    { r with
      authority := base.authority
      path := base.path
      params := base.params
      query := if r.query.isEmpty then base.query else r.query }
  else { r with authority := base.authority, path := pathFrom base.path r.path }

def resolve (base reference : Text) : Text :=
  if base.isEmpty then reference
  else if reference.isEmpty then base
  else
    let b := ofText [] base
    let r := ofText b.scheme reference
    if r.scheme = b.scheme && relativeSchemes.contains r.scheme then (meantFrom b r).text
    else reference

end Reference

end Ambient
