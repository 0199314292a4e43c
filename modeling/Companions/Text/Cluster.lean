import Companions.Text.Property.Break
import Companions.Text.Property.Emoji

/-! Dividing a text into clusters, the units that a reader takes for one character. -/
namespace Companions.Text

open Property

inductive BreakClass
  | cr
  | lf
  | control
  | extend
  | joiner
  | regional
  | prepended
  | spacing
  | leading
  | vowel
  | trailing
  | openSyllable
  | closedSyllable
  | other
  deriving DecidableEq

def breakClass (c : Char) : BreakClass :=
  let n := c.toNat
  if c = '\r' then .cr
  else if c = '\n' then .lf
  else if 0x20 ≤ n ∧ n < 0x7F then .other
  else if n = 0x200D then .joiner
  else if control.has c then .control
  else if extend.has c then .extend
  else if 0x1F1E6 ≤ n ∧ n ≤ 0x1F1FF then .regional
  else if prepended.has c then .prepended
  else if spacing.has c then .spacing
  else if (0x1100 ≤ n ∧ n ≤ 0x115F) ∨ (0xA960 ≤ n ∧ n ≤ 0xA97C) then .leading
  else if (0x1160 ≤ n ∧ n ≤ 0x11A7) ∨ (0xD7B0 ≤ n ∧ n ≤ 0xD7C6) then .vowel
  else if (0x11A8 ≤ n ∧ n ≤ 0x11FF) ∨ (0xD7CB ≤ n ∧ n ≤ 0xD7FB) then .trailing
  else if 0xAC00 ≤ n ∧ n ≤ 0xD7A3 then
    if (n - 0xAC00) % 28 = 0 then .openSyllable else .closedSyllable
  else .other

/-- Signs of Indian scripts that join two consonants. -/
def isLinker (c : Char) : Bool :=
  c = '\u094d' || c = '\u09cd' || c = '\u0acd' || c = '\u0b4d' || c = '\u0c4d' || c = '\u0d4d'

/-- Consonants of the scripts that have such a sign. -/
def consonants : Ranges := [
  (0x0915, 0x0939), (0x0958, 0x095F), (0x0978, 0x097F), (0x0995, 0x09A8), (0x09AA, 0x09B0),
  (0x09B2, 0x09B2), (0x09B6, 0x09B9), (0x09DC, 0x09DD), (0x09DF, 0x09DF), (0x09F0, 0x09F1),
  (0x0A95, 0x0AA8), (0x0AAA, 0x0AB0), (0x0AB2, 0x0AB3), (0x0AB5, 0x0AB9), (0x0AF9, 0x0AF9),
  (0x0B15, 0x0B28), (0x0B2A, 0x0B30), (0x0B32, 0x0B33), (0x0B35, 0x0B39), (0x0B5C, 0x0B5D),
  (0x0B5F, 0x0B5F), (0x0B71, 0x0B71), (0x0C15, 0x0C28), (0x0C2A, 0x0C39), (0x0C58, 0x0C5A),
  (0x0D15, 0x0D3A)]

/-- How a picture may go on after the characters read so far. -/
inductive Picture
  | absent
  | extended
  | joined
  deriving DecidableEq

/-- How a consonant may go on. -/
inductive Conjunct
  | absent
  | consonant
  | linked
  deriving DecidableEq

/-- What the rules look at before the next character. -/
structure Before where
  last : BreakClass
  /-- Whether an odd number of regional indicators ends here. -/
  oddRegional : Bool
  picture : Picture
  conjunct : Conjunct

def Before.add (b : Before) (c : Char) : Before :=
  let k := breakClass c
  { last := k
    oddRegional := k = .regional && !b.oddRegional
    picture :=
      if pictographic.has c then .extended
      else if b.picture = .extended ∧ k = .extend then .extended
      else if b.picture = .extended ∧ k = .joiner then .joined
      else .absent
    conjunct :=
      if consonants.has c then .consonant
      else if b.conjunct = .absent then .absent
      else if isLinker c then .linked
      else if k = .extend ∨ k = .joiner then b.conjunct
      else .absent }

def Before.start : Before := ⟨.control, false, .absent, .absent⟩

/-- Whether the character belongs to the cluster before it. -/
def Before.continues (b : Before) (c : Char) : Bool :=
  let k := breakClass c
  match b.last, k with
  | .cr, .lf => true
  | .cr, _ | .lf, _ | .control, _ => false
  | _, .cr | _, .lf | _, .control => false
  | .leading, .leading | .leading, .vowel | .leading, .openSyllable
  | .leading, .closedSyllable => true
  | .openSyllable, .vowel | .openSyllable, .trailing | .vowel, .vowel | .vowel, .trailing => true
  | .closedSyllable, .trailing | .trailing, .trailing => true
  | _, .extend | _, .joiner | _, .spacing => true
  | .prepended, _ => true
  | .regional, .regional => b.oddRegional
  | _, _ =>
    (b.picture = .joined && pictographic.has c) || (b.conjunct = .linked && consonants.has c)

/-- The clusters after the one that has been begun, which is given last character first. -/
def clustersFrom (b : Before) (current : List Char) : List Char → List (List Char)
  | [] => if current.isEmpty then [] else [current.reverse]
  | c :: cs =>
    if current.isEmpty || b.continues c then clustersFrom (b.add c) (c :: current) cs
    else current.reverse :: clustersFrom (Before.start.add c) [c] cs

def clusters (cs : List Char) : List (List Char) := clustersFrom .start [] cs

end Companions.Text
