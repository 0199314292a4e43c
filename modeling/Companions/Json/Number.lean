import Companions.Number.Integer

/-! Number literals. Integers of at most 64 bits are exact; everything else is a double, obtained
from a 64-bit significand and a power of ten with one rounding for each operation. -/
namespace Companions.Json

inductive Number
  | integer (n : Int)
  | real (x : Float)

/-- The shape of a number literal, digits as numbers. -/
structure Literal where
  negative : Bool
  whole : List Nat
  fraction : List Nat
  /-- The sign of the exponent (true for a minus) and its digits, when there is one. -/
  exponent : Option (Bool × List Nat)

/-- A significand of at most 64 bits, the digits that no longer fit, and whether any was left. -/
def accumulate (acc : Nat) : List Nat → Nat × List Nat
  | [] => (acc, [])
  | d :: ds =>
    if acc * 10 + d < 18446744073709551616 then accumulate (acc * 10 + d) ds else (acc, d :: ds)

def powerOfTen (n : Nat) : Float := Float.ofScientific 1 false n

/-- `f` times ten to the power `e`, in steps of at most 308; `none` when it is beyond the largest
double. -/
def scale (f : Float) (e : Int) : Option Float :=
  if 0 ≤ e then
    if e ≤ 308 then
      let g := f * powerOfTen e.toNat
      if g.isInf then none else some g
    else if f == 0.0 then some f else none
  else down f (-e).toNat ((-e).toNat / 308 + 1)
where
  down (f : Float) (n : Nat) : Nat → Option Float
    | 0 => some f
    | steps + 1 =>
      if n ≤ 308 then some (f / powerOfTen n)
      else if f == 0.0 then some f
      else down (f / powerOfTen 308) (n - 308) steps

def signed (negative : Bool) (x : Float) : Float := if negative then -x else x

/-- The exponent written, unless it exceeds 31 bits. -/
def readExponent (acc : Nat) : List Nat → Option Nat
  | [] => some acc
  | d :: ds => if acc * 10 + d < 2147483648 then readExponent (acc * 10 + d) ds else none

/-- Significand and power of ten, the power of ten being what the digits before the exponent call
for. -/
def Literal.parts (l : Literal) : Nat × Int :=
  match accumulate 0 l.whole with
  | (s, []) =>
    let (t, rest) := accumulate s l.fraction
    (t, (rest.length : Int) - l.fraction.length)
  | (s, excess) =>
    let (t, rest) := accumulate s l.fraction
    (t, (excess.length : Int) + rest.length - l.fraction.length)

def clampExponent (e : Int) : Int := max (-2147483648) (min 2147483647 e)

def Literal.real? (l : Literal) : Option Float :=
  let (s, e) := l.parts
  let f := (UInt64.ofNat s).toFloat
  match l.exponent with
  | none => (scale f e).map (signed l.negative)
  | some (minus, ds) =>
    match readExponent 0 ds with
    | some n => (scale f (clampExponent (if minus then e - n else e + n))).map (signed l.negative)
    | none => if s = 0 ∨ minus then some (signed l.negative 0.0) else none

/-- The value of a literal; `none` when it is too large for a double. Minus zero and integers that
need more than 64 bits are doubles. -/
def Literal.number? (l : Literal) : Option Number :=
  match l.fraction, l.exponent, accumulate 0 l.whole with
  | [], none, (n, []) =>
    if l.negative = false then some (.integer n)
    else if 0 < n ∧ n ≤ 9223372036854775808 then some (.integer (-n))
    else some (.real (-(UInt64.ofNat n).toFloat))
  | _, _, _ => l.real?.map .real

end Companions.Json
