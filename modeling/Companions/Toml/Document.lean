import Companions.Toml.Scalar
import Companions.Toml.Text

/-! Whole TOML texts: keys, values, headers and comments. -/
namespace Companions.Toml

def skipBlanks (cs : List Char) : List Char := cs.dropWhile isBlank

/-- What follows blanks, a comment and the end of the line. -/
def endLine? (cs : List Char) : Option (List Char) :=
  let rest :=
    match skipBlanks cs with
    | '#' :: cs => cs.dropWhile isPlain
    | cs => cs
  match rest with
  | [] => some []
  | '\n' :: cs => some cs
  | '\r' :: '\n' :: cs => some cs
  | _ => none

/-- What follows blanks, line ends and comments. -/
def skipSpace (inComment : Bool) : List Char → List Char
  | [] => []
  | '\r' :: '\n' :: cs => skipSpace false cs
  | c :: cs =>
    if c = '\n' then skipSpace false cs
    else if inComment then if isPlain c then skipSpace true cs else c :: cs
    else if isBlank c then skipSpace false cs
    else if c = '#' then skipSpace true cs
    else c :: cs

def isBareKeyChar (c : Char) : Bool := c.isAlphanum || c = '-' || c = '_'

/-- One part of a key: bare, or a string on one line. -/
def keyPart? (cs : List Char) : Option (String × List Char) :=
  match cs.takeWhile isBareKeyChar with
  | [] => line? cs
  | name => some (String.ofList name, cs.dropWhile isBareKeyChar)

/-- A key of at most `limit` parts with dots between them, and what follows it and blanks. -/
def key? : Nat → List Char → Option (List String × List Char)
  | 0, _ => none
  | limit + 1, cs => do
    let (part, cs) ← keyPart? (skipBlanks cs)
    match skipBlanks cs with
    | '.' :: cs =>
      let (path, cs) ← key? limit cs
      return (part :: path, cs)
    | cs => return ([part], cs)

/-- The most parts of a key, and the deepest nesting of values. -/
def limit : Nat := 79

/-- The path to a table and the name in it. -/
def splitPath (path : List String) : List String × String :=
  (path.dropLast, path.getLastD "")

variable (value? : List Char → Option (Value × List Char))

/-- A key and its value, and what follows them. -/
def pair (cs : List Char) : Option (List String × String × Value × List Char) := do
  let (path, cs) ← key? limit cs
  match cs with
  | '=' :: cs =>
    let (v, cs) ← value? (skipBlanks cs)
    let (path, name) := splitPath path
    return (path, name, v, cs)
  | _ => none

/-- The values of an array after its opening bracket. `fuel` bounds their number. -/
def items? (acc : List Value) : Nat → List Char → Option (List Value × List Char)
  | 0, _ => none
  | fuel + 1, cs =>
    match skipSpace false cs with
    | ']' :: cs => some (acc.reverse, cs)
    | cs =>
      match value? cs with
      | none => none
      | some (v, cs) =>
        match skipSpace false cs with
        | ',' :: cs => items? (v :: acc) fuel cs
        | ']' :: cs => some ((v :: acc).reverse, cs)
        | _ => none

/-- The entries of a table written as a value, from its first key on. -/
def pairs? (acc : Entries) : Nat → List Char → Option (Entries × List Char)
  | 0, _ => none
  | fuel + 1, cs =>
    match pair value? cs with
    | none => none
    | some (path, name, v, cs) =>
      match acc.add path name v, skipBlanks cs with
      | some acc, ',' :: cs => pairs? acc fuel cs
      | some acc, '\x7d' :: cs => some (acc, cs)
      | _, _ => none

/-- A value in which arrays and tables are nested at most `depth` deep. -/
def nested? : Nat → List Char → Option (Value × List Char)
  | 0, cs =>
    match cs with
    | '"' :: _ | '\'' :: _ => (text? cs).map fun (s, cs) => (.text s, cs)
    | cs => scalar cs
  | depth + 1, cs =>
    match cs with
    | '"' :: _ | '\'' :: _ => (text? cs).map fun (s, cs) => (.text s, cs)
    | '[' :: cs =>
      (items? (nested? depth) [] (cs.length + 1) cs).map fun (vs, cs) => (.array vs, cs)
    | '\x7b' :: cs =>
      match skipBlanks cs with
      | '\x7d' :: cs => some (.inlineTable [], cs)
      | cs =>
        (pairs? (nested? depth) [] (cs.length + 1) cs).map fun (es, cs) => (.inlineTable es, cs)
    | cs => scalar cs

/-- What has been read: all entries, and the path of the table that keys belong to. -/
structure Document where
  root : Entries := []
  current : List String := []

def Document.add (d : Document) (path : List String) (name : String) (v : Value) :
    Option Document :=
  (d.root.alter false (fun _ es => es.add path name v) false d.current).map fun root =>
    { d with root }

/-- Read one line, or as many as its value takes. -/
def statement? (d : Document) (cs : List Char) : Option (Document × List Char) :=
  match skipBlanks cs with
  | '[' :: '[' :: cs => do
    let (path, cs) ← key? limit cs
    match cs with
    | ']' :: ']' :: cs =>
      let (parent, name) := splitPath path
      return (⟨← d.root.beginElement parent name, path⟩, ← endLine? cs)
    | _ => none
  | '[' :: cs => do
    let (path, cs) ← key? limit cs
    match cs with
    | ']' :: cs =>
      let (parent, name) := splitPath path
      return (⟨← d.root.beginTable parent name, path⟩, ← endLine? cs)
    | _ => none
  | cs =>
    match endLine? cs with
    | some cs => some (d, cs)
    | none => do
      let (path, name, v, cs) ← pair (nested? limit) cs
      return (← d.add path name v, ← endLine? cs)

/-- Read to the end; `fuel` bounds the number of lines. -/
def statements? : Nat → Document → List Char → Option Document
  | _, d, [] => some d
  | 0, _, _ :: _ => none
  | fuel + 1, d, c :: cs =>
    match statement? d (c :: cs) with
    | some (d, cs) => statements? fuel d cs
    | none => none

/-- The entries of a TOML text. A byte order mark at its start is left out. -/
def parse? (s : String) : Option Entries :=
  let cs :=
    match s.toList with
    | '\ufeff' :: cs => cs
    | cs => cs
  (statements? (cs.length + 1) {} cs).map Document.root

end Companions.Toml
