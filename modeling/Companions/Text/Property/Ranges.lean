/-! Sets of characters, given by the ranges of their code points. -/
namespace Companions.Text.Property

/-- Ranges in ascending order, both ends included. -/
abbrev Ranges := List (Nat × Nat)

/-- Looks no further than the first range beyond `n`. -/
def Ranges.covers : Ranges → Nat → Bool
  | [], _ => false
  | (low, high) :: rest, n => if n < low then false else if n ≤ high then true else covers rest n

def Ranges.has (r : Ranges) (c : Char) : Bool := r.covers c.toNat

end Companions.Text.Property
