/-! The shortest decimal that reads back as a given double, and its notation. -/
namespace Companions.Number

/-- A decimal: `digits` times ten to the power `exponent`. -/
structure Decimal where
  digits : Nat
  exponent : Int

/-- A positive double as a significand times a power of two. -/
structure Binary where
  significand : Nat
  exponent : Int

/-- The first bit of the significand of an ordinary double, which is not stored. -/
def implicitBit : Nat := 4503599627370496

/-- The magnitude of a finite double. -/
def Binary.ofBits (bits : UInt64) : Binary :=
  let m := (bits &&& 0xFFFFFFFFFFFFF).toNat
  let e := ((bits >>> 52) &&& 0x7FF).toNat
  if e = 0 then ⟨m, -1074⟩ else ⟨implicitBit + m, (e : Int) - 1075⟩

/-- A quotient of natural numbers. -/
structure Ratio where
  num : Nat
  den : Nat

def Ratio.le (a b : Ratio) : Bool := a.num * b.den ≤ b.num * a.den

def Ratio.lt (a b : Ratio) : Bool := a.num * b.den < b.num * a.den

/-- `n` times `base` to the power `e`. -/
def Ratio.scaled (n base : Nat) (e : Int) : Ratio :=
  if 0 ≤ e then ⟨n * Nat.pow base e.toNat, 1⟩ else ⟨n, Nat.pow base (-e).toNat⟩

/-- The reals that round to the double, in quarters of its last place; the ends belong to them when
the significand is even. -/
def Binary.holds (b : Binary) (r : Ratio) : Bool :=
  let low := if b.significand = implicitBit ∧ -1074 < b.exponent then 1 else 2
  let lo := Ratio.scaled (4 * b.significand - low) 2 (b.exponent - 2)
  let hi := Ratio.scaled (4 * b.significand + 2) 2 (b.exponent - 2)
  if b.significand % 2 = 0 then lo.le r && r.le hi else lo.lt r && r.lt hi

/-- The power of ten just above a positive quotient, starting the search at `e`. -/
def Ratio.magnitude (r : Ratio) (e : Int) : Nat → Int
  | 0 => e
  | fuel + 1 => if r.lt (Ratio.scaled 1 10 e) then e else r.magnitude (e + 1) fuel

/-- The decimal with the last digit at ten to the power `e` that reads back as `b` and is nearest,
the greater one of two; `none` if there is none. -/
def Binary.onGrid (b : Binary) (e : Int) : Option Decimal :=
  let v := Ratio.scaled b.significand 2 b.exponent
  let unit := Ratio.scaled 1 10 e
  let below := v.num * unit.den / (v.den * unit.num)
  let point (n : Nat) : Ratio := ⟨n * unit.num, unit.den⟩
  match b.holds (point below) && below != 0, b.holds (point (below + 1)) with
  | true, false => some ⟨below, e⟩
  | false, true => some ⟨below + 1, e⟩
  | false, false => none
  | true, true =>
    if 2 * v.num * unit.den < (2 * below + 1) * unit.num * v.den then some ⟨below, e⟩
    else some ⟨below + 1, e⟩

/-- The first grid with at least `count` digits that holds a decimal for `b`. -/
def Binary.search (b : Binary) (top : Int) (count : Nat) : Nat → Decimal
  | 0 => ⟨b.significand, 0⟩
  | fuel + 1 =>
    match b.onGrid (top - count) with
    | some d => d
    | none => b.search top (count + 1) fuel

def stripZeros (d : Decimal) : Nat → Decimal
  | 0 => d
  | fuel + 1 =>
    if d.digits ≠ 0 ∧ d.digits % 10 = 0 then stripZeros ⟨d.digits / 10, d.exponent + 1⟩ fuel else d

/-- The shortest decimal that reads back as the magnitude of a finite double. -/
def shortest (x : Float) : Decimal :=
  let b := Binary.ofBits x.toBits
  if b.significand = 0 then ⟨0, 0⟩
  else
    let v := Ratio.scaled b.significand 2 b.exponent
    stripZeros (b.search (v.magnitude (-324) 640) 1 17) 20

/-- Where positional notation ends: a nonzero decimal d.ddd·10^n is written positionally when
`least ≤ n < bound`. -/
structure Positional where
  least : Int
  bound : Int

private def zeros (n : Nat) : String := String.ofList (List.replicate n '0')

/-- A point is always written in positional notation, and an exponent has no plus sign. -/
def Positional.decimal (f : Positional) (d : Decimal) : String :=
  let ds := toString d.digits
  let top := d.exponent + ds.length
  if d.digits = 0 then "0.0"
  else if f.least ≤ top - 1 ∧ top - 1 < f.bound then
    if 0 ≤ d.exponent then ds ++ zeros d.exponent.toNat ++ ".0"
    else if top ≤ 0 then "0." ++ zeros (-top).toNat ++ ds
    else
      let cs := ds.toList
      String.ofList (cs.take top.toNat) ++ "." ++ String.ofList (cs.drop top.toNat)
  else
    let mantissa :=
      match ds.toList with
      | [] => ""
      | [c] => String.ofList [c]
      | c :: cs => String.ofList (c :: '.' :: cs)
    mantissa ++ "e" ++ toString (top - 1)

/-- The text of a double; the sign of zero is kept. -/
def Positional.text (f : Positional) (x : Float) : String :=
  if x.isNaN then "NaN"
  else
    let sign := if x.toBits >>> 63 == 1 then "-" else ""
    if x.isInf then sign ++ "inf" else sign ++ f.decimal (shortest x)

end Companions.Number
