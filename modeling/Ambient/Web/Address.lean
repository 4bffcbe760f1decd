/-
  Ambient/Web/Address.lean
  ========================
  **Hosts that are given by number.**

  A host can be given by four numbers between dots, or by eight groups of hexadecimal digits
  between colons, of which one row of zeros may be left out and the last two may be written as
  four numbers.  A zone may stand behind the groups, after a percent sign.
-/
import Ambient.Text.Basic

namespace Ambient.Address

/-! ### Four numbers -/

/-- Whether a text is one of four numbers: at most 255, without zeros in front. -/
def isByte (t : Text) : Bool :=
  !t.isEmpty && t.length ≤ 3 && t.all CodePoint.isAsciiDigit &&
    (t.length = 1 || t.head? != some (.scalar '0')) && Text.digitsValue t ≤ 255

def isQuad (t : Text) : Bool :=
  let parts := Text.split '.' t
  parts.length = 4 && parts.all isByte

def digitRows : Text → List Text
  | [] => [[]]
  | c :: rest =>
    if c.isAsciiDigit then Text.prependToFirst c (digitRows rest) else [] :: digitRows rest

/-- Whether a text looks like four numbers: it can be cut into four rows of digits with one code
    point between them, whichever it is, even a digit.  A row of digits has room for as many cuts
    as leave a digit on both sides of each. -/
def resemblesQuad (t : Text) : Bool :=
  let rows := digitRows t
  !rows.any List.isEmpty && rows.length ≤ 4 &&
    4 ≤ rows.foldr (fun row most => 1 + (row.length - 1) / 2 + most) 0

/-! ### Eight groups -/

def isGroup (t : Text) : Bool :=
  !t.isEmpty && t.length ≤ 4 && t.all fun (c : CodePoint) => c.hexValue?.isSome

/-- The groups of a text between colons, where four numbers at the end make two groups; nothing if
    they are no numbers. -/
def groups? (t : Text) : Option (List Text) :=
  let parts := Text.split ':' t
  match parts.getLast? with
  | none => some parts
  | some last =>
    if !last.contains (.scalar '.') then some parts
    else if isQuad last then some (parts.dropLast ++ [("0" : Text), "0"])
    else none

/-- The places of the empty groups between the first and the last one. -/
def gaps (parts : List Text) : List Nat :=
  (List.range parts.length).filter fun i =>
    0 < i && i + 1 < parts.length && (parts[i]?.any List.isEmpty)

/-- Whether groups are those of an address: eight of them, or fewer with one gap, which is at the
    start or the end if the first or the last group is empty. -/
def areGroups (parts : List Text) : Bool :=
  match gaps parts with
  | [] => parts.length = 8 && parts.all isGroup
  | [gap] =>
    let front := parts.take gap
    let back := parts.drop (gap + 1)
    let front := if front = [[]] then [] else front
    let back := if back = [[]] then [] else back
    front.length + back.length < 8 && front.all isGroup && back.all isGroup
  | _ => false

/-- Whether a text is eight groups between colons, perhaps with a zone behind them. -/
def isGrouped (t : Text) : Bool :=
  let address := t.takeWhile fun (c : CodePoint) => c != .scalar '%'
  let zone := t.drop address.length
  (zone.isEmpty || (zone.length ≠ 1 && !zone.tail.contains (.scalar '%'))) &&
    3 ≤ (Text.split ':' address).length &&
    match groups? address with
    | none => false
    | some parts => parts.length ≤ 9 && areGroups parts

end Ambient.Address
