/-
  Ambient/Decode/Issue.lean
  =========================
  **What does not fit when a JSON value is read as a record.**

  Reading a value as a record does not stop at the first thing that does not fit: every field is
  read, and the issues of all of them are told together, in the order of the fields.  `Checked`
  is the result of such a reading.  Its two sides combine by `both`: a pair is there only if both
  sides are, and otherwise the issues of both sides are.
-/
import Ambient.Json.Value
import Ambient.Text.Utf8

namespace Ambient

inductive Step where
  | field (name : Text)
  | item (index : Nat)
deriving DecidableEq, Repr

/-- The step to the value under a key.  The names of steps hold no surrogates: each of them leaves
    three marks, as many as it would take bytes. -/
def Step.key (name : Text) : Step :=
  .field (name.flatMap fun (c : CodePoint) =>
    if c.isSurrogate then List.replicate 3 Utf8.replacement else [c])

inductive Mismatch where
  | missing
  | notText
  | holdsSurrogate
  | notFlag
  | unreadFlag
  | notInteger
  | unreadInteger
  | oversizeInteger
  | fractionalInteger
  | notFinite
  | notList
  | notTable
  | notRecord
  | notVariant
  | otherKind
  | noKind
  | unknownKind
  | notPath
deriving DecidableEq, Repr

/-- A part of a value that does not fit: the way to it, and what is wrong with it. -/
structure Issue where
  path : List Step
  mismatch : Mismatch
deriving DecidableEq, Repr

def Issue.within (step : Step) (i : Issue) : Issue := { i with path := step :: i.path }

inductive Checked (α : Type) where
  | fits (a : α)
  | fails (issues : List Issue)

namespace Checked

variable {α β γ : Type}

def mismatch (m : Mismatch) : Checked α := fails [⟨[], m⟩]

def map (f : α → β) : Checked α → Checked β
  | fits a => fits (f a)
  | fails is => fails is

/-- Both results, or the issues of both. -/
def both : Checked α → Checked β → Checked (α × β)
  | fits a, fits b => fits (a, b)
  | fits _, fails js => fails js
  | fails is, fits _ => fails is
  | fails is, fails js => fails (is ++ js)

def apply (f : Checked (α → β)) (a : Checked α) : Checked β := (both f a).map fun p => p.1 p.2

instance : Functor Checked := ⟨map, fun a => map fun _ => a⟩

instance : Applicative Checked where
  pure := fits
  seq f a := apply f (a ())

def within (step : Step) : Checked α → Checked α
  | fits a => fits a
  | fails is => fails (is.map (Issue.within step))

end Checked

end Ambient
