import Companions.Json.Value
import Companions.Number.Shortest

/-! The compact text of a JSON value. -/
namespace Companions.Json

/-- Doubles are written positionally from 1e-5 below 1e16. -/
def realText : Number.Positional := ⟨-5, 16⟩

def hexDigit (n : Nat) : Char := if n < 10 then Char.ofNat (48 + n) else Char.ofNat (87 + n)

/-- The characters that stand for `c` inside quotes. -/
def escape (c : Char) : List Char :=
  match c with
  | '"' => ['\\', '"']
  | '\\' => ['\\', '\\']
  | '\n' => ['\\', 'n']
  | '\r' => ['\\', 'r']
  | '\t' => ['\\', 't']
  | '\x08' => ['\\', 'b']
  | '\x0c' => ['\\', 'f']
  | c =>
    if c.toNat < 0x20 then ['\\', 'u', '0', '0', hexDigit (c.toNat / 16), hexDigit (c.toNat % 16)]
    else [c]

def quote (s : String) : String := String.ofList ('"' :: s.toList.flatMap escape ++ ['"'])

mutual

/-- A double that is not finite, or a literal without a value, is written as null. -/
def render : Json → String
  | .null => "null"
  | .bool true => "true"
  | .bool false => "false"
  | .integer n => toString n
  | .real x => if x.isFinite then realText.text x else "null"
  | .text s => quote s
  | .array items => "[" ++ String.intercalate "," (renderAll items) ++ "]"
  | .object members => "\x7b" ++ String.intercalate "," (renderMembers members) ++ "\x7d"
  | .faulty => "null"

def renderAll : List Json → List String
  | [] => []
  | v :: vs => render v :: renderAll vs

def renderMembers : List (String × Json) → List String
  | [] => []
  | (k, v) :: ms => (quote k ++ ":" ++ render v) :: renderMembers ms

end

end Companions.Json
