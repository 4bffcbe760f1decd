/-
  Ambient/Text/Span.lean
  ======================
  **Sets of code points, written as spans of consecutive numbers.**

  The character properties that this library needs beyond ASCII are those of Unicode 14.  A
  property is a list of spans in ascending order, and a number has the property if some span
  holds it.
-/

namespace Ambient

/-- The numbers from a first one to a last one, both included. -/
structure Span where
  first : Nat
  last : Nat
deriving DecidableEq, Repr

namespace Span

def holds (s : Span) (n : Nat) : Bool := s.first ≤ n && n ≤ s.last

def anyHolds (spans : List Span) (n : Nat) : Bool := spans.any fun s => s.holds n

def ofPairs (pairs : List (Nat × Nat)) : List Span := pairs.map fun p => ⟨p.1, p.2⟩

end Span

end Ambient
