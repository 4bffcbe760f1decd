/-
  Ambient/Proofs/Loading.lean
  ===========================
  **Documentation from a file and from the web.**

  What is loaded from a file depends on nothing but the path and the bytes under it
  (`World.found`), and loading leaves the world as it is.  A file and an answer from the web with
  one text give the same documentation, or fail in the same way: the bytes of the file are read as
  the text (`Utf8.decode_eq_ok_iff`), and that the file comes with line feeds for its line ends
  makes no difference but for the places that a complaint is about (`Json.read_unixLines`).
-/
import Ambient.Proofs.LineEnds
import Ambient.Proofs.Utf8Coding
import Ambient.Run.Load

namespace Ambient

/-! ### What loading gives -/

namespace World

variable {α : Type}

def found (world : World) (source : Text)
    (ofFile : Except FileFault (List UInt8) → Except Failure α) : Except Failure α :=
  match (Path.ofText source).fault? with
  | some f => .error (.path f)
  | none => ofFile (world.files.read (.ofText source))

theorem readUnder_eq (world : World) (source : Text)
    (ofFile : Except FileFault (List UInt8) → Except Failure α) :
    host.readUnder source ofFile world = (world.found source ofFile, world) := by
  unfold Host.readUnder found
  cases (Path.ofText source).fault? with
  | none => rfl
  | some f => rfl

theorem loadSettings_eq (world : World) (source : Text) :
    host.loadSettings source world = (world.found source (Settings.ofFile source), world) :=
  world.readUnder_eq source _

theorem readSchema_eq (world : World) (source : Text) :
    host.readSchema source world = (world.found source (Schema.ofFile source), world) :=
  world.readUnder_eq source _

theorem loadSchema_of_file (world : World) (follows : Bool) {source : Text}
    (h : isUrl source = false) :
    host.loadSchema follows source world = (world.found source (Schema.ofFile source), world) := by
  unfold Host.loadSchema
  rw [h]
  exact world.readSchema_eq source

theorem loadSchema_of_url {world : World} {follows : Bool} {source : Text} {response : Response}
    {url : Url} (h : isUrl source = true)
    (hget : (host.get follows source world).1 = .ok (response, url)) :
    (host.loadSchema follows source world).1 = Schema.ofResponse url response := by
  unfold Host.loadSchema Host.fetchSchema
  rw [if_pos h]
  simp only [bind, StateT.bind]
  revert hget
  rcases host.get follows source world with ⟨result, world'⟩
  rintro rfl
  rfl

end World

/-! ### Failures of one kind -/

/-- Whether two failures are the same but for the places that a complaint is about. -/
inductive Failure.SameKind : Failure → Failure → Prop
  | same (f : Failure) : SameKind f f
  | malformed (complaint : Json.Complaint) (whole remaining whole' remaining' : Text) :
    SameKind (.schema (.malformed complaint whole remaining))
      (.schema (.malformed complaint whole' remaining'))

/-- Whether two attempts at loading come to the same: to one documentation, or to failures of one
    kind. -/
def Schema.Agree (a b : Except Failure Schema) : Prop :=
  (∃ schema, a = .ok schema ∧ b = .ok schema) ∨
    ∃ f g, a = .error f ∧ b = .error g ∧ f.SameKind g

theorem Schema.agree_self (a : Except Failure Schema) : Agree a a := by
  cases a with
  | ok schema => exact .inl ⟨schema, rfl, rfl⟩
  | error f => exact .inr ⟨f, f, rfl, rfl, .same f⟩

/-- How line ends are spelled shows in the place of a complaint only. -/
theorem Schema.agree_parse_unixLines (t : Text) : Agree (parse (Text.unixLines t)) (parse t) := by
  unfold parse
  rw [Json.read_unixLines]
  cases Json.read t with
  | ok v =>
    cases v with
    | object fields => exact agree_self _
    | _ => exact agree_self _
  | error fault =>
    cases fault with
    | malformed complaint remaining => exact .inr ⟨_, _, rfl, rfl, .malformed ..⟩
    | hugeInteger digits => exact agree_self _
    | tooDeep container => exact agree_self _

/-- **A file and an answer from the web with one text agree.** -/
theorem Schema.load_agree {world world' : World} {follows follows' : Bool}
    {name address s : Text} {bytes : List UInt8} {response : Response} {url : Url}
    (hname : isUrl name = false) (hpath : (Path.ofText name).fault? = none)
    (hfile : world.files.read (.ofText name) = .ok bytes) (hbytes : Utf8.encode s = .ok bytes)
    (haddress : isUrl address = true)
    (hget : (World.host.get follows' address world').1 = .ok (response, url))
    (hstatus : response.status = 200) (hbody : response.body = s) :
    Agree (World.host.loadSchema follows name world).1
      (World.host.loadSchema follows' address world').1 := by
  have hweb : (World.host.loadSchema follows' address world').1 = parse s := by
    have hsuccess : response.isSuccess = true := by simp [Response.isSuccess, hstatus]
    rw [World.loadSchema_of_url haddress hget, ofResponse, if_pos hsuccess, hbody]
  have hread : (World.host.loadSchema follows name world).1 = parse (Text.unixLines s) := by
    rw [World.loadSchema_of_file world follows hname]
    simp only [World.found, hpath, hfile, ofFile, Utf8.decode_eq_ok_iff.2 hbytes]
  rw [hweb, hread]
  exact agree_parse_unixLines s

/-! ### One text under a name and under an address -/

def docsAddress : Text := "http://docs.test/data.json"

def docsUrl : Url where
  scheme := "http"
  user := []
  host := "docs.test"
  number := none
  path := "/data.json"
  query := none
  fragment := none

def docsText : Text := "\x7b\r\n\"classes\" \x7b\x7d"

def docsWorld : World where
  files := ⟨[(⟨.above 0, ["data.json"]⟩, .file ((Utf8.encode docsText).toOption.getD []))]⟩
  web := [(docsAddress, ⟨200, docsText, none⟩)]
  workingDirectory := .ofText "/work"

theorem Schema.load_agree_docs :
    Agree (World.host.loadSchema true "data.json" docsWorld).1
      (World.host.loadSchema true docsAddress docsWorld).1 := by
  have hget : (World.host.get true docsAddress docsWorld).1 =
      .ok (⟨200, docsText, none⟩, docsUrl) := by
    decide +kernel
  exact load_agree (s := docsText) (by decide) (by decide +kernel) (by decide +kernel) rfl
    (by decide) hget rfl rfl

end Ambient
