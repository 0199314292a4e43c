/-! How alike two words are, by the characters that they share in about the same place (the measure
of Jaro). -/
namespace Companions.Text

/-- Whether two characters count as shared, and the places in the second word that are taken. -/
structure Pairing where
  taken : List Nat := []
  /-- The shared characters in the order of the first word, last one first. -/
  shared : List Char := []

def isNear (range i j : Nat) : Bool := i ≤ j + range && j ≤ i + range

/-- Pair one character with the first free equal one near its place. -/
def Pairing.take (range : Nat) (b : List Char) (p : Pairing) (c : Char) (i : Nat) : Pairing :=
  match b.zipIdx.find? fun (d, j) => isNear range i j && d = c && !p.taken.contains j with
  | some (_, j) => ⟨j :: p.taken, c :: p.shared⟩
  | none => p

/-- Between 0 and 1. -/
def similarity (a b : String) : Float :=
  let (a, b) := (a.toList, b.toList)
  if a.isEmpty ∧ b.isEmpty then 1.0
  else
    let range := max a.length b.length / 2 - 1
    let p := a.zipIdx.foldl (fun p (c, i) => Pairing.take range b p c i) ({} : Pairing)
    let others := (b.zipIdx.filter fun (_, j) => p.taken.contains j).map Prod.fst
    let moved := (p.shared.reverse.zip others).countP fun (c, d) => c != d
    let part (n k : Nat) : Float := n.toFloat / k.toFloat
    let m := p.shared.length
    if m = 0 then 0.0 else (part m a.length + part m b.length + part (m - moved / 2) m) / 3.0

end Companions.Text
