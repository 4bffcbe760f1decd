/-
  Ambient/Web/Response.lean
  =========================
  **Answers from the web.**

  An answer has a status, a body, and perhaps the location of a redirection.  Only a status of
  the two hundreds lets a body be used; any other one is a `WebFault`.  A fetch that follows
  redirections goes on to the location of an answer, and gives up after twenty of them.

  A location travels as ASCII and a body as UTF-8, so an answer with others cannot be sent.
-/
import Ambient.Web.Redirect

namespace Ambient

structure Response where
  status : Nat
  body : Text
  location : Option Text
deriving DecidableEq, Repr

namespace Response

def missing : Response := ⟨404, [], none⟩

def phrases : List (Nat × String) := [
  (100, "Continue"), (101, "Switching Protocols"), (102, "Processing"), (103, "Early Hints"),
  (300, "Multiple Choices"), (301, "Moved Permanently"), (302, "Found"), (303, "See Other"),
  (304, "Not Modified"), (305, "Use Proxy"), (307, "Temporary Redirect"),
  (308, "Permanent Redirect"),
  (400, "Bad Request"), (401, "Unauthorized"), (402, "Payment Required"), (403, "Forbidden"),
  (404, "Not Found"), (405, "Method Not Allowed"), (406, "Not Acceptable"),
  (407, "Proxy Authentication Required"), (408, "Request Timeout"), (409, "Conflict"),
  (410, "Gone"), (411, "Length Required"), (412, "Precondition Failed"),
  (413, "Request Entity Too Large"), (414, "Request-URI Too Long"),
  (415, "Unsupported Media Type"), (416, "Requested Range Not Satisfiable"),
  (417, "Expectation Failed"), (418, "I'm a teapot"), (421, "Misdirected Request"),
  (422, "Unprocessable Entity"), (423, "Locked"), (424, "Failed Dependency"),
  (425, "Too Early"), (426, "Upgrade Required"), (428, "Precondition Required"),
  (429, "Too Many Requests"), (431, "Request Header Fields Too Large"),
  (451, "Unavailable For Legal Reasons"),
  (500, "Internal Server Error"), (501, "Not Implemented"), (502, "Bad Gateway"),
  (503, "Service Unavailable"), (504, "Gateway Timeout"), (505, "HTTP Version Not Supported"),
  (506, "Variant Also Negotiates"), (507, "Insufficient Storage"), (508, "Loop Detected"),
  (510, "Not Extended"), (511, "Network Authentication Required")]

def phrase (status : Nat) : Text := ((phrases.lookup status).getD "")

def isSuccess (r : Response) : Bool := 200 ≤ r.status && r.status < 300

def redirectStatuses : List Nat := [301, 302, 303, 307, 308]

def redirect? (r : Response) : Option Text :=
  if redirectStatuses.contains r.status then r.location else none

end Response

inductive WebFault where
  | status (response : Response) (url : Text)
  | tooManyRedirects
  | noRoute (fault : RouteFault)
  | unsent (fault : EncodeFault)
  | unreachable (url : Text)
deriving DecidableEq, Repr

namespace WebFault

def statusKind (status : Nat) : Text :=
  match status / 100 with
  | 1 => "Informational response"
  | 3 => "Redirect response"
  | 4 => "Client error"
  | 5 => "Server error"
  | _ => "Invalid status code"

def message : WebFault → Text
  | status r url =>
    let code := Text.ofNat r.status
    statusKind r.status ++ " '" ++ code ++ " " ++ Response.phrase r.status ++ "' for url '" ++
      url ++ "'\n" ++
      (match r.redirect? with
        | some location => "Redirect location: '" ++ location ++ "'\n"
        | none => []) ++
      "For more information check: https://developer.mozilla.org/en-US/docs/Web/HTTP/Status/" ++
      code
  | tooManyRedirects => "Exceeded maximum allowed redirects."
  | noRoute fault => fault.message
  | unsent fault => fault.message
  | unreachable url => "Cannot reach '" ++ url ++ "'"

/-- Whether the fault lies with what the web has, and not with the address that was asked for. -/
def isOfWeb : WebFault → Bool
  | status _ _ | tooManyRedirects | noRoute (.location _) | unreachable _ => true
  | noRoute _ | unsent _ => false

end WebFault

def mostRedirects : Nat := 20

/-- What is under the addresses of the web, as far as it is known. -/
abbrev Web := List (Text × Response)

def Response.fault? (r : Response) : Option EncodeFault :=
  (r.location.bind (EncodeFault.of? .ascii)).or (EncodeFault.of? .utf8 r.body)

def Web.get (web : Web) (url : Text) : Except WebFault Response :=
  let response := (web.lookup url).getD .missing
  match response.fault? with
  | some f => .error (.unsent f)
  | none => .ok response

end Ambient
