/-! Reading text from bytes. -/
namespace Companions.Text.Utf8

/-- How many bytes follow a leading byte, and the range of the first of them. -/
def following (b : Nat) : Option (Nat × Nat × Nat) :=
  if 0xC2 ≤ b ∧ b ≤ 0xDF then some (1, 0x80, 0xBF)
  else if b = 0xE0 then some (2, 0xA0, 0xBF)
  else if b = 0xED then some (2, 0x80, 0x9F)
  else if 0xE1 ≤ b ∧ b ≤ 0xEF then some (2, 0x80, 0xBF)
  else if b = 0xF0 then some (3, 0x90, 0xBF)
  else if 0xF1 ≤ b ∧ b ≤ 0xF3 then some (3, 0x80, 0xBF)
  else if b = 0xF4 then some (3, 0x80, 0x8F)
  else none

/-- What is still expected of a character: how many bytes, the range of the next one, and the value
so far. -/
structure Pending where
  left : Nat
  low : Nat
  high : Nat
  value : Nat

/-- A byte where a character may begin. -/
def leading (b : Nat) : Option Char ⊕ Pending :=
  if b < 0x80 then .inl (some (Char.ofNat b))
  else
    match following b with
    | some (n, low, high) => .inr ⟨n, low, high, b % Nat.pow 2 (6 - n)⟩
    | none => .inl none

/-- How far the bytes are read: the character begun, and those before it, last first. A part of a
character that is not completed stands as `none`. -/
structure Decoding where
  pending : Option Pending := none
  chars : List (Option Char) := []

/-- Take a byte where a character may begin. -/
def Decoding.start (chars : List (Option Char)) (b : Nat) : Decoding :=
  match leading b with
  | .inl c => ⟨none, c :: chars⟩
  | .inr p => ⟨some p, chars⟩

def Decoding.step (d : Decoding) (b : Nat) : Decoding :=
  match d.pending with
  | none => start d.chars b
  | some p =>
    if p.low ≤ b ∧ b ≤ p.high then
      let value := p.value * 64 + b % 64
      if p.left = 1 then ⟨none, some (Char.ofNat value) :: d.chars⟩
      else ⟨some ⟨p.left - 1, 0x80, 0xBF, value⟩, d.chars⟩
    else start (none :: d.chars) b

/-- The characters of a sequence of bytes, with `none` for each longest part of a character that is
not completed. -/
def decode (bs : List UInt8) : List (Option Char) :=
  let d := bs.foldl (fun (d : Decoding) b => d.step b.toNat) {}
  (if d.pending.isSome then none :: d.chars else d.chars).reverse

/-- The text of bytes that are well formed. -/
def decode? (bs : List UInt8) : Option String :=
  let cs := decode bs
  if cs.all Option.isSome then some (String.ofList (cs.filterMap id)) else none

/-- The text of any bytes, with replacement characters for what is not well formed. -/
def decodeLossy (bs : List UInt8) : String :=
  String.ofList ((decode bs).map fun c => c.getD '\ufffd')

end Companions.Text.Utf8
