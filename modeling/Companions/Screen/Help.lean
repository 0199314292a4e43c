import Companions.Screen.Canvas

/-! The table of keys, drawn over the list. -/
namespace Companions.Screen

def bindings : List (String × String) := [
  ("j / Down", "Next companion"),
  ("k / Up", "Previous companion"),
  ("PgDn / PgUp", "Page down / up"),
  ("g / G", "First / last"),
  ("1 2 3 / Tab", "All, Favorite, Recent"),
  ("s", "Cycle sort"),
  ("c", "Filter by selected scene / clear"),
  ("f / Space", "Toggle favorite"),
  ("/", "Search"),
  ("Enter", "Open companion"),
  ("r", "Reload"),
  ("R", "Clear cache and reload"),
  ("v", "Leave visiting session"),
  ("q / Ctrl+c", "Quit")]

/-- A share of `n` in percent, a half rounded up. -/
def percent (share n : Nat) : Nat := (share * n + 50) / 100

/-- The middle of the screen: three fifths of its width and seven tenths of its height. -/
def helpArea (width height : Nat) : Area :=
  let left := percent 20 width
  let top := percent 15 height
  ⟨left, top, percent 80 width - left, percent 85 height - top⟩

/-- The columns for the keys, so that the second column keeps ten. -/
def keyColumns (width : Nat) : Nat := min 16 (width - 11)

def drawHelp (width height : Nat) (c : Canvas) : Canvas :=
  let area := helpArea width height
  if area.width < 20 ∨ area.height < 6 then c
  else
    let inner := area.inner
    let keys := keyColumns inner.width
    let c := (c.erase area).drawBox area {} " Help (any key to close) "
    let c := c.paint (inner.row 0) { bold := true }
    let rows := ("  Key", "Action") :: bindings.map fun (k, d) => ("  " ++ k, d)
    let lines := rows.take inner.height
    lines.zipIdx.foldl
      (fun c (line, i) =>
        let row := inner.row i
        let c := c.drawLine { row with width := keys } line.1
        c.drawLine { row with x := row.x + keys + 1, width := row.width - keys - 1 } line.2)
      c

end Companions.Screen
