import Companions.Text.Blank

/-! Parts of a text: splitting at a character, and whether one text occurs in another. -/
namespace Companions.Text

/-- The parts between the occurrences of `sep`; there is always at least one. -/
def splitAt (sep : Char) : List Char → List (List Char)
  | [] => [[]]
  | c :: cs =>
    match splitAt sep cs with
    | [] => [[]]
    | part :: parts => if c = sep then [] :: part :: parts else (c :: part) :: parts

def startsWith : List Char → List Char → Bool
  | [], _ => true
  | _, [] => false
  | n :: ns, c :: cs => n == c && startsWith ns cs

/-- Whether `needle` occurs in the text as consecutive characters. -/
def occurs (needle : List Char) : List Char → Bool
  | [] => needle.isEmpty
  | c :: cs => startsWith needle (c :: cs) || occurs needle cs

/-- Lower case, as far as it yields ASCII: the letters A to Z, the Kelvin sign, and the dotted
capital I, which becomes a small i with a combining dot. No other character has an ASCII letter in
its lower case, so looking for an ASCII text is not affected by the rest. -/
def foldCase : List Char → List Char
  | [] => []
  | c :: cs =>
    if c = '\u212a' then 'k' :: foldCase cs
    else if c = '\u0130' then 'i' :: '\u0307' :: foldCase cs
    else c.toLower :: foldCase cs

/-- Whether an ASCII text in lower case occurs in `s`, whatever the case there. -/
def mentions (s : List Char) (needle : String) : Bool := occurs needle.toList (foldCase s)

end Companions.Text
