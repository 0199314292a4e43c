/-! Arithmetic of lengths on the screen, as doubles or as exact rationals. -/
namespace Companions

/-- What the computation of a viewport needs of a kind of numbers. -/
class Length (α : Type) extends Add α, Sub α, Mul α, Div α where
  zero : α
  one : α
  ofIndex : UInt64 → α
  isFinite : α → Bool
  lt : α → α → Bool
  le : α → α → Bool
  /-- The integer at or below, kept between 0 and the largest index. -/
  floorIndex : α → UInt64
  /-- The nearest integer, a half going up, kept between 0 and the largest index. -/
  roundIndex : α → UInt64

instance : Length Float where
  zero := 0.0
  one := 1.0
  ofIndex := UInt64.toFloat
  isFinite := Float.isFinite
  lt a b := a < b
  le a b := a ≤ b
  floorIndex x := x.floor.toUInt64
  roundIndex x := x.round.toUInt64

/-- A rational, or a value that is not finite. -/
inductive Exact
  | finite (q : Rat)
  | notFinite
  deriving DecidableEq

namespace Exact

def map₂ (f : Rat → Rat → Rat) : Exact → Exact → Exact
  | finite a, finite b => finite (f a b)
  | _, _ => notFinite

def decide₂ (p : Rat → Rat → Bool) : Exact → Exact → Bool
  | finite a, finite b => p a b
  | _, _ => false

def clampIndex (n : Int) : UInt64 :=
  if n < 0 then 0
  else if n < 18446744073709551616 then UInt64.ofNat n.toNat
  else 18446744073709551615

def toIndex (f : Rat → Int) : Exact → UInt64
  | finite q => clampIndex (f q)
  | notFinite => 0

end Exact

instance : Length Exact where
  add := Exact.map₂ (· + ·)
  sub := Exact.map₂ (· - ·)
  mul := Exact.map₂ (· * ·)
  div := Exact.map₂ (· / ·)
  zero := .finite 0
  one := .finite 1
  ofIndex n := .finite n.toNat
  isFinite
    | .finite _ => true
    | .notFinite => false
  lt := Exact.decide₂ fun a b => a < b
  le := Exact.decide₂ fun a b => a ≤ b
  floorIndex := Exact.toIndex Rat.floor
  roundIndex := Exact.toIndex fun q => (q + 1 / 2).floor

namespace Length

variable {α : Type} [Length α]

def max (a b : α) : α := if lt a b then b else a

def min (a b : α) : α := if lt b a then b else a

/-- The value where it is at least one, and one otherwise. -/
def atLeastOne (x : α) : α := if le one x then x else one

/-- An item's size: one unless it is finite and at least one. -/
def soundExtent (x : α) : α := if isFinite x && le one x then x else one

/-- A size or an offset: zero unless it is finite and positive. -/
def soundOffset (x : α) : α := if isFinite x && lt zero x then x else zero

end Length
end Companions
