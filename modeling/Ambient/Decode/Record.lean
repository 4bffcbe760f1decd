/-
  Ambient/Decode/Record.lean
  ==========================
  **Reading lists, tables and records.**

  A record is read from the fields of an object by name.  A field that is absent takes its
  default, or is missing if it has none; a field that is given as null is read like any other, so
  only a `nullable` one may be null.  Names that the record does not have are passed over.

  An object may have several fields of one name.  A record takes the last of them; a table reads
  them all, so that each must fit, and then keeps the last one in the place of the first.
-/
import Ambient.Decode.Scalar

namespace Ambient

variable {α β : Type}

namespace Decoder

def itemsFrom (d : Decoder α) : Nat → List Json → Checked (List α)
  | _, [] => .fits []
  | i, v :: rest =>
    ((d v).within (.item i)).both (itemsFrom d (i + 1) rest) |>.map fun (a, as) => a :: as

def list (d : Decoder α) : Decoder (List α)
  | .array items => itemsFrom d 0 items
  | _ => .mismatch .notList

def entriesOf (d : Decoder α) : List (Text × Json) → Checked (List (Text × α))
  | [] => .fits []
  | (name, v) :: rest =>
    ((d v).within (.key name)).both (entriesOf d rest) |>.map fun (a, as) => (name, a) :: as

def table (d : Decoder α) : Decoder (Table α)
  | .object fields => (entriesOf d fields).map Table.ofList
  | _ => .mismatch .notTable

def nullable (d : Decoder α) : Decoder (Option α)
  | .null => .fits none
  | v => (d v).map some

def record (read : List (Text × Json) → Checked α) : Decoder α
  | .object fields => read (Json.collapse fields)
  | _ => .mismatch .notRecord

def exactly (label : Text) : Decoder Unit
  | .text t =>
    if t = label then .fits ()
    else if t.hasSurrogate then .mismatch .holdsSurrogate
    else .mismatch .otherKind
  | _ => .mismatch .otherKind

/-- A record of one of several kinds, which are told apart by the label in a field. -/
def variant (field : Text) (kinds : List (Text × Decoder α)) : Decoder α
  | .object fields =>
    match fields.lookup field with
    | none => .mismatch .noKind
    | some (.text label) =>
      match kinds.lookup label with
      | some d => (d (.object fields)).within (.field label)
      | none => .mismatch .unknownKind
    | some _ => .mismatch .unknownKind
  | _ => .mismatch .notVariant

end Decoder

/-! ### Fields -/

def optionalField (name : Text) (d : Decoder α) (absent : α) (fields : List (Text × Json)) :
    Checked α :=
  match fields.lookup name with
  | some v => (d v).within (.field name)
  | none => .fits absent

def requiredField (name : Text) (d : Decoder α) (fields : List (Text × Json)) : Checked α :=
  match fields.lookup name with
  | some v => (d v).within (.field name)
  | none => .fails [⟨[.field name], .missing⟩]

/-- The field of a record that has a second name, which counts if the first is absent. -/
def aliasedField (name other : Text) (d : Decoder α) (absent : α) (fields : List (Text × Json)) :
    Checked α :=
  match fields.lookup name with
  | some v => (d v).within (.field name)
  | none => optionalField other d absent fields

end Ambient
