import Companions.Number.Integer
import Companions.Number.Nearest
import Companions.Toml.Value

/-! Numbers, dates and the words of a TOML text. Each is one run of characters, except that a blank
may stand between date and time. -/
namespace Companions.Toml

/-- Digits, with single underscores between them. -/
def digits? (radix : Nat) : List Char → Option (List Nat)
  | [] => none
  | [c] => (Number.digitIn? radix c).map fun d => [d]
  | c :: '_' :: cs => do return (← Number.digitIn? radix c) :: (← digits? radix cs)
  | c :: cs => do return (← Number.digitIn? radix c) :: (← digits? radix cs)

def valueOf (radix : Nat) (ds : List Nat) : Nat := ds.foldl (fun n d => n * radix + d) 0

/-- Decimal digits without a superfluous zero in front. -/
def whole? (cs : List Char) : Option (List Nat) :=
  match digits? 10 cs with
  | some (0 :: _ :: _) => none
  | r => r

def splitSign : List Char → Bool × List Char
  | '-' :: cs => (true, cs)
  | '+' :: cs => (false, cs)
  | cs => (false, cs)

def signedInt (negative : Bool) (n : Nat) : Int := if negative then -n else n

/-- An integer of 64 bits; only decimal ones have a sign. -/
def integer? (cs : List Char) : Option Int := do
  let n ←
    match cs with
    | '0' :: 'x' :: ds => (digits? 16 ds).map fun ds => Int.ofNat (valueOf 16 ds)
    | '0' :: 'o' :: ds => (digits? 8 ds).map fun ds => Int.ofNat (valueOf 8 ds)
    | '0' :: 'b' :: ds => (digits? 2 ds).map fun ds => Int.ofNat (valueOf 2 ds)
    | cs =>
      let (negative, ds) := splitSign cs
      (whole? ds).map fun ds => signedInt negative (valueOf 10 ds)
  Number.signed64? n

/-- The part before the first character that `p` picks, and the part after it. -/
def cut (p : Char → Bool) (cs : List Char) : List Char × Option (List Char) :=
  (cs.takeWhile fun c => !p c, (cs.dropWhile fun c => !p c).tail?)

/-- A number with a fraction, an exponent or both. It may be too small for a double, and below all
of them, but not above. -/
def real? (cs : List Char) : Option Float := do
  let (negative, cs) := splitSign cs
  let (mantissa, exponent) := cut (fun c => c = 'e' || c = 'E') cs
  let (whole, fraction) := cut (· = '.') mantissa
  if exponent.isNone ∧ fraction.isNone then none
  let whole ← whole? whole
  let fraction ← (fraction.map (digits? 10)).getD (some [])
  let exponent ←
    match exponent with
    | none => some 0
    | some e =>
      let (negative, ds) := splitSign e
      (digits? 10 ds).map fun ds => signedInt negative (valueOf 10 ds)
  let d : Number.Decimal := ⟨valueOf 10 (whole ++ fraction), exponent - fraction.length⟩
  let x := d.nearest
  if negative then some (-x) else if x.isInf then none else some x

def pair? (a b : Char) : Option Nat := Number.natural? [a, b]

def daysIn (year month : Nat) : Nat :=
  if month = 2 then
    if year % 4 = 0 ∧ (year % 100 ≠ 0 ∨ year % 400 = 0) then 29 else 28
  else if month = 4 ∨ month = 6 ∨ month = 9 ∨ month = 11 then 30
  else 31

/-- What follows a date of the calendar. -/
def date? : List Char → Option (List Char)
  | a :: b :: c :: d :: '-' :: m :: n :: '-' :: x :: y :: cs => do
    let year ← Number.natural? [a, b, c, d]
    let month ← pair? m n
    let day ← pair? x y
    if 1 ≤ month ∧ month ≤ 12 ∧ 1 ≤ day ∧ day ≤ daysIn year month then some cs else none
  | _ => none

/-- What follows a time of day. A minute may have a leap second. -/
def time? : List Char → Option (List Char)
  | a :: b :: ':' :: c :: d :: ':' :: e :: f :: cs => do
    let hour ← pair? a b
    let minute ← pair? c d
    let second ← pair? e f
    if 23 < hour ∨ 59 < minute ∨ 60 < second then none
    else
      match cs with
      | '.' :: c :: cs => if c.isDigit then some (cs.dropWhile Char.isDigit) else none
      | '.' :: [] => none
      | cs => some cs
  | _ => none

/-- The distance from universal time, which ends a run. -/
def isOffset : List Char → Bool
  | [] | ['Z'] | ['z'] => true
  | [s, a, b, ':', c, d] =>
    (s = '+' || s = '-') &&
      match pair? a b, pair? c d with
      | some hour, some minute => hour ≤ 23 && minute ≤ 59
      | _, _ => false
  | _ => false

def isZonedTime (cs : List Char) : Bool := ((time? cs).map isOffset).getD false

/-- A date, a time, or both in one run. -/
def isMoment (cs : List Char) : Bool :=
  match date? cs with
  | some [] => true
  | some (t :: cs) => (t = 'T' || t = 't') && isZonedTime cs
  | none => time? cs == some []

/-- What the runs of numbers, dates and words consist of. -/
def isRunChar (c : Char) : Bool :=
  c.isAlphanum || c = '_' || c = '+' || c = '-' || c = '.' || c = ':'

def word? (run : List Char) : Option Value :=
  match String.ofList run with
  | "true" => some (.bool true)
  | "false" => some (.bool false)
  | "inf" | "+inf" => some (.real (1.0 / 0.0))
  | "-inf" => some (.real (-1.0 / 0.0))
  | "nan" | "+nan" | "-nan" => some (.real (0.0 / 0.0))
  | _ => none

def number? (run : List Char) : Option Value :=
  match integer? run with
  | some n => some (.integer n)
  | none => (real? run).map .real

/-- A number, a date or a word, and what follows. -/
def scalar (cs : List Char) : Option (Value × List Char) :=
  let run := cs.takeWhile isRunChar
  let rest := cs.dropWhile isRunChar
  if isMoment run then
    match date? run, rest with
    | some [], ' ' :: more =>
      let time := more.takeWhile isRunChar
      if isZonedTime time then some (.moment, more.dropWhile isRunChar) else some (.moment, rest)
    | _, _ => some (.moment, rest)
  else ((word? run).or (number? run)).map fun v => (v, rest)

end Companions.Toml
