import Companions.Number.Integer

/-! The strings of a TOML text: with escapes or without, on one line or on several. -/
namespace Companions.Toml

/-- Blanks within a line. -/
def isBlank (c : Char) : Bool := c = ' ' || c = '\t'

/-- What may stand in a string or a comment as it is. -/
def isPlain (c : Char) : Bool := c = '\t' || (0x20 ≤ c.toNat && c.toNat != 0x7F)

/-- The character with a number in hexadecimal digits. -/
def scalar? (ds : List Char) : Option Char := do
  let n ← ds.foldlM (fun n c => (Number.digitIn? 16 c).map fun d => n * 16 + d) 0
  if n < 0xD800 ∨ (0xDFFF < n ∧ n ≤ 0x10FFFF) then some (Char.ofNat n) else none

def simpleEscape? : Char → Option Char
  | '"' => some '"'
  | '\\' => some '\\'
  | 'b' => some '\x08'
  | 'f' => some '\x0c'
  | 'n' => some '\n'
  | 'r' => some '\r'
  | 't' => some '\t'
  | _ => none

/-- A string in double quotes after the first of them, last character first, and what follows. -/
def basic? (acc : List Char) : List Char → Option (List Char × List Char)
  | [] => none
  | '"' :: cs => some (acc, cs)
  | '\\' :: 'u' :: a :: b :: c :: d :: cs =>
    match scalar? [a, b, c, d] with
    | some x => basic? (x :: acc) cs
    | none => none
  | '\\' :: 'U' :: a :: b :: c :: d :: e :: f :: g :: h :: cs =>
    match scalar? [a, b, c, d, e, f, g, h] with
    | some x => basic? (x :: acc) cs
    | none => none
  | '\\' :: c :: cs =>
    match simpleEscape? c with
    | some x => basic? (x :: acc) cs
    | none => none
  | c :: cs => if isPlain c then basic? (c :: acc) cs else none

def literal? (acc : List Char) : List Char → Option (List Char × List Char)
  | [] => none
  | '\'' :: cs => some (acc, cs)
  | c :: cs => if isPlain c then literal? (c :: acc) cs else none

/-- Up to two quotes just before the closing ones belong to the string. -/
def closeBlock (quote : Char) (acc : List Char) : List Char → List Char × List Char
  | a :: b :: cs =>
    if a = quote ∧ b = quote then (quote :: quote :: acc, cs)
    else if a = quote then (quote :: acc, b :: cs)
    else (acc, a :: b :: cs)
  | [a] => if a = quote then (quote :: acc, []) else (acc, [a])
  | [] => (acc, [])

/-- Where a backslash at the end of a line has led. -/
inductive Folding
  | off
  /-- The end of the line must come. -/
  | pending
  /-- Blanks and line ends are left out. -/
  | on
  deriving DecidableEq

/-- A string of several lines in threefold double quotes. -/
def basicBlock? (folding : Folding) (acc : List Char) : List Char → Option (List Char × List Char)
  | [] => none
  | '\r' :: '\n' :: cs =>
    match folding with
    | .off => basicBlock? .off ('\n' :: acc) cs
    | _ => basicBlock? .on acc cs
  | '\n' :: cs =>
    match folding with
    | .off => basicBlock? .off ('\n' :: acc) cs
    | _ => basicBlock? .on acc cs
  | '"' :: '"' :: '"' :: cs =>
    if folding = .pending then none else some (closeBlock '"' acc cs)
  | '\\' :: 'u' :: a :: b :: c :: d :: cs =>
    if folding = .pending then none
    else
      match scalar? [a, b, c, d] with
      | some x => basicBlock? .off (x :: acc) cs
      | none => none
  | '\\' :: 'U' :: a :: b :: c :: d :: e :: f :: g :: h :: cs =>
    if folding = .pending then none
    else
      match scalar? [a, b, c, d, e, f, g, h] with
      | some x => basicBlock? .off (x :: acc) cs
      | none => none
  | '\\' :: '\r' :: '\n' :: cs => if folding = .pending then none else basicBlock? .on acc cs
  | '\\' :: c :: cs =>
    if folding = .pending then none
    else if c = '\n' then basicBlock? .on acc cs
    else if isBlank c then basicBlock? .pending acc cs
    else
      match simpleEscape? c with
      | some x => basicBlock? .off (x :: acc) cs
      | none => none
  | c :: cs =>
    if isBlank c ∧ folding ≠ .off then basicBlock? folding acc cs
    else if folding = .pending ∨ !isPlain c then none
    else basicBlock? .off (c :: acc) cs

/-- A string of several lines in threefold apostrophes. -/
def literalBlock? (acc : List Char) : List Char → Option (List Char × List Char)
  | [] => none
  | '\r' :: '\n' :: cs => literalBlock? ('\n' :: acc) cs
  | '\n' :: cs => literalBlock? ('\n' :: acc) cs
  | '\'' :: '\'' :: '\'' :: cs => some (closeBlock '\'' acc cs)
  | c :: cs => if isPlain c then literalBlock? (c :: acc) cs else none

/-- What follows a line end at the front, or all. -/
def dropLineEnd : List Char → List Char
  | '\r' :: '\n' :: cs => cs
  | '\n' :: cs => cs
  | cs => cs

def textOf : Option (List Char × List Char) → Option (String × List Char) :=
  Option.map fun (acc, cs) => (String.ofList acc.reverse, cs)

/-- A string on one line. -/
def line? : List Char → Option (String × List Char)
  | '"' :: cs => textOf (basic? [] cs)
  | '\'' :: cs => textOf (literal? [] cs)
  | _ => none

/-- Any string. -/
def text? : List Char → Option (String × List Char)
  | '"' :: '"' :: '"' :: cs => textOf (basicBlock? .off [] (dropLineEnd cs))
  | '\'' :: '\'' :: '\'' :: cs => textOf (literalBlock? [] (dropLineEnd cs))
  | cs => line? cs

end Companions.Toml
