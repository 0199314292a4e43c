import Companions.Failure
import Companions.Text.Property.Escaped
import Companions.Text.Utf8
import Companions.Url.Percent

/-! The host of a URL: a domain or a numeric address. -/
namespace Companions.Url

inductive Host
  | domain (name : String)
  | ipv4 (address : Nat)
  /-- Eight pieces of 16 bits. -/
  | ipv6 (pieces : List Nat)
  /-- The host of a scheme of which nothing is known. -/
  | verbatim (name : String)
  deriving DecidableEq

/-- Characters that mean something else in a URL, or nothing. -/
def isForbiddenInDomain (c : Char) : Bool :=
  c.toNat ≤ 0x20 || c.toNat = 0x7F ||
    ['%', '#', '/', ':', '<', '>', '?', '@', '[', '\\', ']', '^', '|'].contains c

/-- Characters that a domain is read without. -/
def isIgnoredInDomain (c : Char) : Bool :=
  let n := c.toNat
  n = 0xAD || n = 0x34F || (0x180B ≤ n && n ≤ 0x180F) || n = 0x200B || n = 0x2060 || n = 0x2064 ||
    (0xFE00 ≤ n && n ≤ 0xFE0F) || n = 0xFEFF

/-- The form in which domains are compared: small letters, and ordinary forms of full-width ones. -/
def foldDomainChar (c : Char) : Char :=
  let n := c.toNat
  if n = 0x3002 ∨ n = 0xFF0E ∨ n = 0xFF61 then '.'
  else if 0xFF01 ≤ n ∧ n ≤ 0xFF5E then (Char.ofNat (n - 0xFEE0)).toLower
  else if n = 0x3000 ∨ n = 0xA0 then ' '
  else if n = 0x212A then 'k'
  else c.toLower

def foldDomain (cs : List Char) : List Char :=
  (cs.filter fun c => !isIgnoredInDomain c).map foldDomainChar

def isDomainChar (c : Char) : Bool :=
  !isForbiddenInDomain c && (c.toNat < 0x7F || !Text.Property.escaped.has c)

/-- Split at dots. -/
def labels : List Char → List (List Char)
  | [] => [[]]
  | c :: cs =>
    match labels cs with
    | [] => [[]]
    | l :: ls => if c = '.' then [] :: l :: ls else (c :: l) :: ls

def readRadix (radix : Nat) (cs : List Char) : Option Nat :=
  cs.foldlM (fun n c => (Number.digitIn? radix c).map fun d => n * radix + d) 0

/-- A part of a dotted address, in decimal, octal or hexadecimal. -/
def readPart (cs : List Char) : Option Nat :=
  match cs with
  | [] => none
  | '0' :: 'x' :: ds | '0' :: 'X' :: ds => readRadix 16 ds
  | '0' :: d :: ds => readRadix 8 (d :: ds)
  | ds => readRadix 10 ds

/-- The labels of a domain, without an empty one at the end. -/
def properLabels (cs : List Char) : List (List Char) :=
  let ls := labels cs
  if 1 < ls.length ∧ ls.getLast? = some [] then ls.dropLast else ls

def endsInNumber (cs : List Char) : Bool :=
  match (properLabels cs).getLast? with
  | some l => (!l.isEmpty && l.all Char.isDigit) || (readPart l).isSome
  | none => false

/-- Up to four numbers; the last one fills what the others leave. -/
def readIpv4 (cs : List Char) : Except UrlError Host :=
  let parts := properLabels cs
  if 4 < parts.length then .error .invalidIpv4
  else
    match parts.mapM readPart with
    | none => .error .invalidIpv4
    | some numbers =>
      match numbers.reverse with
      | [] => .error .invalidIpv4
      | last :: before =>
        if Nat.pow 256 (4 - before.length) ≤ last ∨ before.any (255 < ·) then .error .invalidIpv4
        else
          let place (n : Nat) (p : Nat × Nat) : Nat := n + p.1 * Nat.pow 256 (3 - p.2)
          .ok (.ipv4 (before.reverse.zipIdx.foldl place last))

/-- A part of a dotted address inside a longer one: decimal, up to 255, without leading zeros. -/
def readOctet (cs : List Char) : Option Nat :=
  match cs with
  | [] => none
  | ['0'] => some 0
  | '0' :: _ => none
  | ds => (readRadix 10 ds).bind fun n => if n ≤ 255 then some n else none

def splitColons : List Char → List (List Char)
  | [] => [[]]
  | c :: cs =>
    match splitColons cs with
    | [] => [[]]
    | p :: ps => if c = ':' then [] :: p :: ps else (c :: p) :: ps

/-- One group of an address: one piece, or the two of a dotted address at the end. -/
def readGroup (isLast : Bool) (cs : List Char) : Option (List Nat) :=
  if cs.contains '.' then
    if isLast then
      match (labels cs).mapM readOctet with
      | some [a, b, c, d] => some [a * 256 + b, c * 256 + d]
      | _ => none
    else none
  else if cs.isEmpty ∨ 4 < cs.length then none
  else (readRadix 16 cs).map fun n => [n]

def readGroups : List (List Char) → Option (List Nat)
  | [] => some []
  | [g] => readGroup true g
  | g :: gs => do
    let a ← readGroup false g
    let b ← readGroups gs
    return a ++ b

/-- Divide a text at the first pair of colons. -/
def splitGap : List Char → Option (List Char × List Char)
  | ':' :: ':' :: cs => some ([], cs)
  | c :: cs => (splitGap cs).map fun (a, b) => (c :: a, b)
  | [] => none

def groupsOf (cs : List Char) : Option (List Nat) :=
  if cs.isEmpty then some [] else readGroups (splitColons cs)

def readIpv6 (cs : List Char) : Except UrlError Host :=
  match splitGap cs with
  | none =>
    match readGroups (splitColons cs) with
    | some ps => if ps.length = 8 then .ok (.ipv6 ps) else .error .invalidIpv6
    | none => .error .invalidIpv6
  | some (before, after) =>
    if before.contains '.' then .error .invalidIpv6
    else
      match groupsOf before, groupsOf after with
      | some a, some b =>
        if a.length + b.length < 8 then
          .ok (.ipv6 (a ++ List.replicate (8 - a.length - b.length) 0 ++ b))
        else .error .invalidIpv6
      | _, _ => .error .invalidIpv6

def readBracketed (cs : List Char) : Except UrlError Host :=
  if cs.getLast? = some ']' then readIpv6 cs.dropLast else .error .invalidIpv6

/-- The host of an address of http and the like. -/
def readDomain (cs : List Char) : Except UrlError Host :=
  match cs with
  | '[' :: rest => readBracketed rest
  | _ =>
    match Text.Utf8.decode? (decodePercent cs) with
    | none => .error .invalidDomain
    | some text =>
      let name := foldDomain text.toList
      if !name.all isDomainChar then .error .invalidDomain
      else if name.isEmpty then .error .emptyHost
      else if endsInNumber name then readIpv4 name
      else .ok (.domain (String.ofList name))

def forbiddenVerbatim : List Char :=
  ['\x00', '\t', '\n', '\r', ' ', '#', '/', ':', '<', '>', '?', '@', '[', '\\', ']', '^', '|']

/-- The host of another scheme. -/
def readVerbatim (cs : List Char) : Except UrlError Host :=
  match cs with
  | '[' :: rest => readBracketed rest
  | _ =>
    if cs.any forbiddenVerbatim.contains then .error .invalidDomainCharacter
    else .ok (.verbatim (String.ofList (encodeWith [] cs)))

def hexText (n : Nat) : String := String.ofList (Nat.toDigits 16 n)

/-- The longest run of at least two zeros, first of several: where it starts and how long it is. -/
def longestGap (ps : List Nat) : Nat × Nat :=
  (List.range ps.length).foldl
    (fun (start, len) i =>
      let run := ((ps.drop i).takeWhile (· = 0)).length
      if max len 1 < run then (i, run) else (start, len))
    (0, 0)

def ipv6Text (ps : List Nat) : String :=
  let (start, len) := longestGap ps
  let join (qs : List Nat) : String := String.intercalate ":" (qs.map hexText)
  if len = 0 then join ps else join (ps.take start) ++ "::" ++ join (ps.drop (start + len))

def Host.text : Host → String
  | domain name => name
  | ipv4 a =>
    String.intercalate "." ([a / 16777216, a / 65536 % 256, a / 256 % 256, a % 256].map toString)
  | ipv6 ps => "[" ++ ipv6Text ps ++ "]"
  | verbatim name => name

end Companions.Url
