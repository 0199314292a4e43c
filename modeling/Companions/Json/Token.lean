import Companions.Json.Number

/-! The tokens of a JSON text. A literal can be well formed and still have no value: a number beyond
the largest double, or a string with an unpaired surrogate. -/
namespace Companions.Json

inductive Token
  | openArray
  | closeArray
  | openObject
  | closeObject
  | colon
  | comma
  | null
  | bool (b : Bool)
  | number (n : Option Number)
  | text (s : Option String)

/-- One piece of a string: a character, or a UTF-16 code unit given by a numeric escape. -/
inductive Piece
  | char (c : Char)
  | unit (n : Nat)

def isHighSurrogate (n : Nat) : Bool := 0xD800 ≤ n && n < 0xDC00

def isLowSurrogate (n : Nat) : Bool := 0xDC00 ≤ n && n < 0xE000

/-- The characters that the pieces spell, last character first; `none` for an unpaired surrogate. -/
def joinPieces (acc : List Char) : List Piece → Option (List Char)
  | [] => some acc
  | .char c :: ps => joinPieces (c :: acc) ps
  | .unit n :: ps =>
    if isHighSurrogate n then
      match ps with
      | .unit m :: ps =>
        if isLowSurrogate m then
          joinPieces (Char.ofNat (0x10000 + (n - 0xD800) * 0x400 + (m - 0xDC00)) :: acc) ps
        else none
      | _ => none
    else if isLowSurrogate n then none
    else joinPieces (Char.ofNat n :: acc) ps

def hex4? (a b c d : Char) : Option Nat := do
  let a ← Number.digitIn? 16 a
  let b ← Number.digitIn? 16 b
  let c ← Number.digitIn? 16 c
  let d ← Number.digitIn? 16 d
  return ((a * 16 + b) * 16 + c) * 16 + d

def simpleEscape? : Char → Option Char
  | '"' => some '"'
  | '\\' => some '\\'
  | '/' => some '/'
  | 'b' => some '\x08'
  | 'f' => some '\x0c'
  | 'n' => some '\n'
  | 'r' => some '\r'
  | 't' => some '\t'
  | _ => none

/-- The pieces of a string after its opening quote, last piece first, and what follows the closing
quote. -/
def lexString (acc : List Piece) : List Char → Option (List Piece × List Char)
  | [] => none
  | '"' :: cs => some (acc, cs)
  | '\\' :: 'u' :: a :: b :: c :: d :: cs =>
    match hex4? a b c d with
    | some n => lexString (.unit n :: acc) cs
    | none => none
  | '\\' :: e :: cs =>
    match simpleEscape? e with
    | some c => lexString (.char c :: acc) cs
    | none => none
  | c :: cs => if c.toNat < 0x20 then none else lexString (.char c :: acc) cs

/-- The leading digits, last digit first in front of `acc`, and the rest. -/
def lexDigits (acc : List Nat) : List Char → List Nat × List Char
  | [] => (acc, [])
  | c :: cs =>
    match Number.digit? c with
    | some d => lexDigits (d :: acc) cs
    | none => (acc, c :: cs)

def lexDigits1 (cs : List Char) : Option (List Nat × List Char) :=
  match lexDigits [] cs with
  | ([], _) => none
  | (ds, rest) => some (ds.reverse, rest)

/-- Digits without a superfluous zero in front. -/
def lexWhole (cs : List Char) : Option (List Nat × List Char) :=
  match lexDigits1 cs with
  | some (0 :: _ :: _, _) => none
  | r => r

def lexFraction : List Char → Option (List Nat × List Char)
  | '.' :: cs => lexDigits1 cs
  | cs => some ([], cs)

def lexExponent (cs : List Char) : Option (Option (Bool × List Nat) × List Char) :=
  match cs with
  | e :: cs' =>
    if e = 'e' ∨ e = 'E' then
      match cs' with
      | '-' :: cs'' => (lexDigits1 cs'').map fun (ds, rest) => (some (true, ds), rest)
      | '+' :: cs'' => (lexDigits1 cs'').map fun (ds, rest) => (some (false, ds), rest)
      | _ => (lexDigits1 cs').map fun (ds, rest) => (some (false, ds), rest)
    else some (none, cs)
  | [] => some (none, cs)

/-- A number literal whose sign has been read. -/
def lexNumber (negative : Bool) (cs : List Char) : Option (Literal × List Char) := do
  let (whole, cs) ← lexWhole cs
  let (fraction, cs) ← lexFraction cs
  let (exponent, cs) ← lexExponent cs
  return (⟨negative, whole, fraction, exponent⟩, cs)

def isSpace (c : Char) : Bool := c = ' ' || c = '\t' || c = '\n' || c = '\r'

def lexWord : List Char → Option (Token × List Char)
  | 'n' :: 'u' :: 'l' :: 'l' :: cs => some (.null, cs)
  | 't' :: 'r' :: 'u' :: 'e' :: cs => some (.bool true, cs)
  | 'f' :: 'a' :: 'l' :: 's' :: 'e' :: cs => some (.bool false, cs)
  | _ => none

/-- The first token and what follows it. -/
def lexToken : List Char → Option (Token × List Char)
  | [] => none
  | '[' :: cs => some (.openArray, cs)
  | ']' :: cs => some (.closeArray, cs)
  | '\x7b' :: cs => some (.openObject, cs)
  | '\x7d' :: cs => some (.closeObject, cs)
  | ':' :: cs => some (.colon, cs)
  | ',' :: cs => some (.comma, cs)
  | '"' :: cs => do
    let (pieces, cs) ← lexString [] cs
    return (.text ((joinPieces [] pieces.reverse).map fun cs => String.ofList cs.reverse), cs)
  | '-' :: cs => (lexNumber true cs).map fun (l, cs) => (.number l.number?, cs)
  | c :: cs =>
    match Number.digit? c with
    | some _ => (lexNumber false (c :: cs)).map fun (l, cs) => (.number l.number?, cs)
    | none => lexWord (c :: cs)

/-- All tokens, last token first; `fuel` bounds the number of steps, each of which takes at least
one character. -/
def lexFrom (fuel : Nat) (acc : List Token) (cs : List Char) : Option (List Token) :=
  match fuel, cs with
  | _, [] => some acc
  | 0, _ :: _ => none
  | fuel + 1, c :: cs =>
    if isSpace c then lexFrom fuel acc cs
    else
      match lexToken (c :: cs) with
      | some (t, cs) => lexFrom fuel (t :: acc) cs
      | none => none

def tokens? (cs : List Char) : Option (List Token) :=
  (lexFrom (cs.length + 1) [] cs).map List.reverse

end Companions.Json
