/-! Indices of 64 bits that stop at their limits. -/
namespace Companions.Index

def limit : UInt64 := 18446744073709551615

def add (a b : UInt64) : UInt64 := if limit - b < a then limit else a + b

def sub (a b : UInt64) : UInt64 := if a < b then 0 else a - b

def min (a b : UInt64) : UInt64 := if b < a then b else a

def max (a b : UInt64) : UInt64 := if a < b then b else a

/-- The quotient rounded up. -/
def divUp (a b : UInt64) : UInt64 := if a % b = 0 then a / b else a / b + 1

end Companions.Index
