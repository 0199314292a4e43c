/-! Integers in decimal notation. -/
namespace Companions.Number

def digit? (c : Char) : Option Nat :=
  if '0' ≤ c ∧ c ≤ '9' then some (c.toNat - 48) else none

/-- The value of a digit to a radix of at most sixteen, letters being of either case. -/
def digitIn? (radix : Nat) (c : Char) : Option Nat :=
  let d :=
    if '0' ≤ c ∧ c ≤ '9' then some (c.toNat - 48)
    else if 'a' ≤ c ∧ c ≤ 'f' then some (c.toNat - 87)
    else if 'A' ≤ c ∧ c ≤ 'F' then some (c.toNat - 55)
    else none
  d.filter (· < radix)

/-- The value of a run of ASCII digits after `acc`; `none` at any other character. -/
def digits? (acc : Nat) : List Char → Option Nat
  | [] => some acc
  | c :: cs => (digit? c).bind fun d => digits? (acc * 10 + d) cs

/-- At least one ASCII digit and nothing else. -/
def natural? : List Char → Option Nat
  | [] => none
  | cs => digits? 0 cs

/-- An optional sign, then at least one ASCII digit. -/
def integer? : List Char → Option Int
  | '-' :: cs => (natural? cs).map fun n => -(n : Int)
  | '+' :: cs => (natural? cs).map Int.ofNat
  | cs => (natural? cs).map Int.ofNat

/-- An integer between `lo` and `hi`. -/
def within (lo hi n : Int) : Option Int := if lo ≤ n ∧ n ≤ hi then some n else none

/-- An integer of 64 bits with sign. -/
def signed64? : Int → Option Int := within (-9223372036854775808) 9223372036854775807

def int64? (n : Int) : Option Int64 := (signed64? n).map Int64.ofInt

def int32? (n : Int) : Option Int32 := (within (-2147483648) 2147483647 n).map Int32.ofInt

def uint64? (n : Int) : Option UInt64 :=
  (within 0 18446744073709551615 n).map fun n => UInt64.ofNat n.toNat

def uint32? (n : Int) : Option UInt32 :=
  (within 0 4294967295 n).map fun n => UInt32.ofNat n.toNat

/-- A 64-bit identifier in decimal notation. -/
def readInt64? (cs : List Char) : Option Int64 := (integer? cs).bind int64?

def showInt (n : Int) : String := toString n

end Companions.Number
