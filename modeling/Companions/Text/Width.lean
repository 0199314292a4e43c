import Companions.Text.Property.Emoji
import Companions.Text.Property.Extent

/-! How many columns a text takes on a terminal. The width of a text is the sum of the widths of its
characters, except where several of them are drawn as one. -/
namespace Companions.Text

open Property

def isControl (c : Char) : Bool := c.toNat < 0x20 || (0x7F ≤ c.toNat && c.toNat < 0xA0)

/-- The columns of a character by itself; a control has none. -/
def charWidth (c : Char) : Nat :=
  let n := c.toNat
  if isControl c then 0
  else if n < 0xA0 then 1
  else if n = 0x17D8 then 3
  else if zeroWidth.has c then 0
  else if doubleWidth.has c then 2
  else 1

/-- The columns of a character inside a text, where a control is drawn as one. -/
def placedWidth (c : Char) : Nat := if isControl c then 1 else charWidth c

def joiner : Char := '\u200d'

def isRegional (c : Char) : Bool := 0x1F1E6 ≤ c.toNat && c.toNat ≤ 0x1F1FF

def isSkinTone (c : Char) : Bool := 0x1F3FB ≤ c.toNat && c.toNat ≤ 0x1F3FF

/-- What follows a picture at the start of the text: a character that asks to be shown as one, one
with a skin tone, or one that is shown so by itself. -/
def picture? : List Char → Option (List Char)
  | [] => none
  | c :: cs =>
    match cs with
    | m :: rest =>
      if m = '\ufe0f' then if emoji.has c && !isRegional c then some rest else none
      else if isSkinTone m && modifierBase.has c then some rest
      else if m ≠ '\ufe0e' ∧ presentation.has c ∧ !isRegional c then some cs
      else none
    | [] => if presentation.has c && !isRegional c then some [] else none

/-- Skip the pictures that are joined to the one before. -/
def joined : Nat → List Char → List Char
  | 0, cs => cs
  | fuel + 1, cs =>
    match cs with
    | z :: rest =>
      if z = joiner then
        match picture? rest with
        | some rest => joined fuel rest
        | none => cs
      else cs
    | [] => cs

/-- Characters shown as a picture that also have a textual form of one column. -/
def textual : Ranges := [
  (0x231A, 0x231B), (0x23E9, 0x23EC), (0x23F0, 0x23F0), (0x23F3, 0x23F3), (0x25FD, 0x25FE),
  (0x2614, 0x2615), (0x2648, 0x2653), (0x267F, 0x267F), (0x2693, 0x2693), (0x26A1, 0x26A1),
  (0x26AA, 0x26AB), (0x26BD, 0x26BE), (0x26C4, 0x26C5), (0x26D4, 0x26D4), (0x26EA, 0x26EA),
  (0x26F2, 0x26F3), (0x26F5, 0x26F5), (0x26FA, 0x26FA), (0x26FD, 0x26FD), (0x2753, 0x2753),
  (0x2757, 0x2757), (0x2B1B, 0x2B1C), (0x2B50, 0x2B50), (0x2B55, 0x2B55), (0x1F004, 0x1F004),
  (0x1F30D, 0x1F30F), (0x1F315, 0x1F315), (0x1F31C, 0x1F31C), (0x1F378, 0x1F378),
  (0x1F393, 0x1F393), (0x1F3A7, 0x1F3A7), (0x1F3AC, 0x1F3AE), (0x1F3C2, 0x1F3C2),
  (0x1F3C4, 0x1F3C4), (0x1F3C6, 0x1F3C6), (0x1F3CA, 0x1F3CA), (0x1F3E0, 0x1F3E0),
  (0x1F3ED, 0x1F3ED), (0x1F408, 0x1F408), (0x1F415, 0x1F415), (0x1F41F, 0x1F41F),
  (0x1F426, 0x1F426), (0x1F442, 0x1F442), (0x1F446, 0x1F449), (0x1F44D, 0x1F44E),
  (0x1F453, 0x1F453), (0x1F46A, 0x1F46A), (0x1F47D, 0x1F47D), (0x1F4A3, 0x1F4A3),
  (0x1F4B0, 0x1F4B0), (0x1F4B3, 0x1F4B3), (0x1F4BB, 0x1F4BB), (0x1F4BF, 0x1F4BF),
  (0x1F4CB, 0x1F4CB), (0x1F4DA, 0x1F4DA), (0x1F4DF, 0x1F4DF), (0x1F4E4, 0x1F4E6),
  (0x1F4EA, 0x1F4ED), (0x1F4F7, 0x1F4F7), (0x1F4F9, 0x1F4FB), (0x1F508, 0x1F508),
  (0x1F50D, 0x1F50D), (0x1F512, 0x1F513), (0x1F550, 0x1F567), (0x1F610, 0x1F610),
  (0x1F687, 0x1F687), (0x1F68D, 0x1F68D), (0x1F691, 0x1F691), (0x1F694, 0x1F694),
  (0x1F698, 0x1F698), (0x1F6AD, 0x1F6AD), (0x1F6B2, 0x1F6B2), (0x1F6B9, 0x1F6BA),
  (0x1F6BC, 0x1F6BC)]

def lams : Ranges :=
  [(0x0644, 0x0644), (0x06B5, 0x06B8), (0x076A, 0x076A), (0x08A6, 0x08A6), (0x08C7, 0x08C7)]

def alefs : Ranges := [
  (0x0622, 0x0623), (0x0625, 0x0625), (0x0627, 0x0627), (0x0671, 0x0673), (0x0675, 0x0675),
  (0x0773, 0x0774)]

/-- Consonants that a Khmer coeng puts below the line. -/
def subscripts : Ranges := [
  (0x1780, 0x1782), (0x1784, 0x1787), (0x1789, 0x178C), (0x178E, 0x1793), (0x1795, 0x1798),
  (0x179B, 0x179D), (0x17A0, 0x17A0), (0x17A2, 0x17A2), (0x17A7, 0x17A7), (0x17AB, 0x17AC),
  (0x17AF, 0x17AF)]

def tifinagh : Ranges := [(0x2D31, 0x2D65), (0x2D6F, 0x2D6F)]

/-- Marks drawn on a letter without separating it from the next. -/
def isTransparent (c : Char) : Bool := c ≠ joiner && c ≠ '\u200c' && zeroWidth.has c

/-- The letters of one script that are drawn as one, with the columns they take and what follows. -/
def ligature? : List Char → Option (Nat × List Char)
  | '\u05d0' :: '\u200d' :: '\u05dc' :: cs => some (1, cs)
  | '\u1a15' :: '\u1a17' :: '\u200d' :: '\u1a10' :: cs => some (1, cs)
  | '𐰲' :: '\u200d' :: '𐰃' :: cs => some (1, cs)
  | a :: b :: cs =>
    if lams.has a then
      match (b :: cs).dropWhile isTransparent with
      | c :: rest => if alefs.has c then some (1, rest) else none
      | [] => none
    else if a = '\u17d2' ∧ subscripts.has b then some (0, cs)
    else if (0xA4F8 ≤ a.toNat ∧ a.toNat ≤ 0xA4FB) ∧ (b = '\ua4fc' ∨ b = '\ua4fd') then some (1, cs)
    else if tifinagh.has a ∧ (b = joiner ∨ b = '\u2d7f') then
      match cs with
      | c :: rest => if tifinagh.has c then some (1, rest) else none
      | [] => none
    else none
  | _ => none

/-- The columns of a text of at most `fuel` characters. -/
def widthWithin : Nat → List Char → Nat
  | 0, _ => 0
  | _, [] => 0
  | fuel + 1, '\r' :: '\n' :: cs => 1 + widthWithin fuel cs
  | fuel + 1, c :: cs =>
    match picture? (c :: cs) with
    | some rest => 2 + widthWithin fuel (joined fuel rest)
    | none =>
      match ligature? (c :: cs) with
      | some (n, rest) => n + widthWithin fuel rest
      | none =>
        let narrow := textual.has c && cs.head? == some '\ufe0e'
        (if narrow then 1 else placedWidth c) + widthWithin fuel cs

/-- The columns of a text. -/
def width (cs : List Char) : Nat := widthWithin cs.length cs

/-- The leading characters that leave room for an ellipsis in `max` columns. -/
def fitting (max used : Nat) : List Char → List Char
  | [] => []
  | c :: cs =>
    let w := charWidth c
    if max < used + w + 1 then [] else c :: fitting max (used + w) cs

/-- The text where it fits into `max` columns, else its beginning and an ellipsis. -/
def truncate (max : Nat) (s : String) : String :=
  if width s.toList ≤ max then s else String.ofList (fitting max 0 s.toList ++ ['…'])

end Companions.Text
