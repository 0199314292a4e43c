import Companions.Number.Integer

/-! Percent-encoding, and the encoding of forms. -/
namespace Companions.Url

def upperHex (n : Nat) : Char := if n < 10 then Char.ofNat (48 + n) else Char.ofNat (55 + n)

def encodeByte (b : UInt8) : List Char := ['%', upperHex (b.toNat / 16), upperHex (b.toNat % 16)]

/-- All bytes of a character. -/
def encodeChar (c : Char) : List Char := (String.utf8EncodeChar c).flatMap encodeByte

/-- Encode the characters that are not printable ASCII, and those that `reserved` names. -/
def encodeWith (reserved : List Char) (cs : List Char) : List Char :=
  cs.flatMap fun c =>
    if c.toNat < 0x20 || 0x7E < c.toNat || reserved.contains c then encodeChar c else [c]

def fragmentReserved : List Char := [' ', '"', '<', '>', '\x60']

def queryReserved : List Char := [' ', '"', '#', '<', '>']

/-- In an address of http and the like, the apostrophe is encoded too. -/
def specialQueryReserved : List Char := '\'' :: queryReserved

def pathReserved : List Char := fragmentReserved ++ ['#', '?', '\x7b', '\x7d']

def userReserved : List Char := pathReserved ++ ['/', ':', ';', '=', '@', '[', '\\', ']', '^', '|']

def percentValue? (a b : Char) : Option UInt8 := do
  let a ← Number.digitIn? 16 a
  let b ← Number.digitIn? 16 b
  return UInt8.ofNat (a * 16 + b)

/-- The bytes of a text in which encoded bytes are decoded. -/
def decodePercent : List Char → List UInt8
  | '%' :: a :: b :: cs =>
    match percentValue? a b with
    | some v => v :: decodePercent cs
    | none => String.utf8EncodeChar '%' ++ decodePercent (a :: b :: cs)
  | c :: cs => String.utf8EncodeChar c ++ decodePercent cs
  | [] => []

/-- What a form writes as it is. -/
def isFormPlain (c : Char) : Bool :=
  c.isAlphanum || c = '*' || c = '-' || c = '.' || c = '_'

/-- The encoding of a name or a value in a form: a space becomes a plus sign. -/
def formEncode (cs : List Char) : List Char :=
  cs.flatMap fun c => if c = ' ' then ['+'] else if isFormPlain c then [c] else encodeChar c

def formPair (name value : String) : List Char :=
  formEncode name.toList ++ '=' :: formEncode value.toList

/-- The pairs of a form, separated by ampersands. -/
def formText : List (String × String) → List Char
  | [] => []
  | [(name, value)] => formPair name value
  | (name, value) :: rest => formPair name value ++ '&' :: formText rest

end Companions.Url
