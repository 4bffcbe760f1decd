/-
  Ambient/Doc/Basic.lean
  ======================
  **Documentation of a library, as a documentation tool extracts it from source comments.**

  A `Schema` has the documented classes under their names and one list of all documented items.
  An item says itself which class it belongs to, and it is a method, a property, or of some other
  kind.  Methods, and classes as constructors, have one signature of their own or several
  overloads; an entry whose list of overloads is absent or empty has its own signature as the
  only one (`Entry.signatures`).
-/
import Ambient.Table

namespace Ambient

structure Param where
  name : Text
  type : Option Text
  isOptional : Bool
  description : Text
deriving DecidableEq, Repr

structure ReturnDoc where
  type : Option Text
  description : Text
deriving DecidableEq, Repr

/-- One variant of the parameters and return value of a method or constructor. -/
structure Signature where
  params : List Param
  returned : Option ReturnDoc
  isStatic : Bool
  isChainable : Bool
  line : Option Int
deriving DecidableEq, Repr

/-- What classes and items have in common: a signature, which is that of the entry if it has no
    overloads, and where and how the entry is documented. -/
structure Entry extends Signature where
  file : Text
  description : Text
  isConstructor : Bool
  overloads : Option (List Signature)
  name : Text
deriving DecidableEq, Repr

namespace Entry

def signatures (e : Entry) : List Signature :=
  match e.overloads with
  | some (s :: rest) => s :: rest
  | _ => [e.toSignature]

/-- The entry with other signatures in the places of the ones it has; there must be as many. -/
def withSignatures (e : Entry) (signatures : List Signature) : Entry :=
  match e.overloads, signatures with
  | some (_ :: _), _ => { e with overloads := some signatures }
  | _, s :: _ => { e with toSignature := s }
  | _, [] => e

theorem signatures_ne_nil (e : Entry) : e.signatures ≠ [] := by
  unfold signatures
  split <;> simp

theorem withSignatures_signatures (e : Entry) : e.withSignatures e.signatures = e := by
  obtain ⟨own, file, description, isConstructor, overloads, name⟩ := e
  match overloads with
  | none => rfl
  | some [] => rfl
  | some (_ :: _) => rfl

theorem signatures_withSignatures (e : Entry) {new : List Signature}
    (h : new.length = e.signatures.length) : (e.withSignatures new).signatures = new := by
  obtain ⟨own, file, description, isConstructor, overloads, name⟩ := e
  match overloads, new, h with
  | none, [_], _ => rfl
  | some [], [_], _ => rfl
  | some (_ :: _), _ :: _, _ => rfl

end Entry

structure ClassDoc extends Entry where
  parent : Option Text
deriving DecidableEq, Repr

inductive ItemKind where
  | method
  | property
  | other (label : Text)
deriving DecidableEq, Repr

namespace ItemKind

def ofLabel (label : Text) : ItemKind :=
  if label = "method" then method
  else if label = "property" then property
  else other label

def label : ItemKind → Text
  | method => "method"
  | property => "property"
  | other label => label

end ItemKind

structure ItemDoc extends Entry where
  owner : Text
  kind : ItemKind
  type : Option Text
  defaultValue : Option Text
  isFinal : Bool
deriving DecidableEq, Repr

structure Schema where
  classes : Table ClassDoc
  items : List ItemDoc

namespace Schema

instance : Inhabited Schema := ⟨⟨.empty, []⟩⟩

def classNames (s : Schema) : List Text := s.classes.keys

/-- Whether an item belongs to a class; an item without a name belongs to none. -/
def belongs (owner : Text) (item : ItemDoc) : Bool := item.owner = owner && !item.name.isEmpty

def itemsFor (s : Schema) (owner : Text) : List ItemDoc := s.items.filter (belongs owner)

end Schema

end Ambient
