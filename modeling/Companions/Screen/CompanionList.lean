import Companions.App.Basic
import Companions.Screen.Canvas

/-! The list of companions, as far as it is in view. -/
namespace Companions.Screen

variable {α : Type} [Length α]

/-- The columns left for a name. -/
def nameWidth (width : Nat) : Nat := width - 24

/-- What a row says of a companion: mark of a favorite, whether online, name, unread messages, how
often it was opened and when last. -/
def summary (now : Moment) (c : Companion) (selected : Bool) (width : Nat) : List Span :=
  let mark : Span := if c.isFavorite then ⟨"★ ", { foreground := some .yellow }⟩ else ⟨"  ", {}⟩
  let online : List Span :=
    if c.isOnline = some true then [⟨"● ", { foreground := some .green }⟩] else []
  let namePen : Pen :=
    if selected then { background := some .darkGray, foreground := some .white }
    else { bold := true }
  let name : Span := ⟨Text.truncate (nameWidth width) c.name, namePen⟩
  let unread : List Span :=
    match c.unread with
    | some n =>
      if n = 0 then [] else [⟨" (" ++ toString n.toNat ++ ")", { foreground := some .cyan }⟩]
    | none => []
  let time := Moment.ago c.lastAccess now
  let opened := "  ×" ++ toString c.accessCount.toNat ++ (if time = "" then "" else " " ++ time)
  mark :: online ++ name :: unread ++ [⟨opened, { foreground := some .darkGray }⟩]

/-- The second row of a companion: its scene and its tags. -/
def detail (c : Companion) (width : Nat) : List Span :=
  let parts := c.sceneName.toList ++ (if c.tags = [] then [] else [String.intercalate ", " c.tags])
  [⟨"    " ++ Text.truncate (width - 4) (String.intercalate " · " parts),
    { foreground := some .gray }⟩]

def rowsOf (now : Moment) (c : Companion) (selected : Bool) (rows width : Nat) : List (List Span) :=
  summary now c selected width :: if 1 < rows then [detail c width] else []

/-- The rows that one companion takes. -/
def rowsPerItem (extent : α) : Nat := max 1 (Length.roundIndex extent).toNat

def listTitle (a : App α) : String :=
  if a.searchMode then "Search: " ++ a.searchInput ++ "_"
  else if a.snapshot.descriptor.search ≠ "" then
    "Results for \"" ++ a.snapshot.descriptor.search ++ "\""
  else "Companions (" ++ toString a.snapshot.total.toNat ++ ")"

/-- The companions to draw in `height` rows, with their indices. -/
def inView (a : App α) (height : Nat) : List (Nat × Companion) :=
  let view := a.surface.viewOf a.snapshot
  let extent := a.surface.geometry.extent
  let first := (Length.floorIndex (view.viewport.scroll / Length.atLeastOne extent)).toNat
  let fits := max 1 (height / rowsPerItem extent)
  let start := view.viewport.first.toNat
  ((view.visible.zipIdx.map fun (c, k) => (start + k, c)).filter fun (i, _) => first ≤ i).take fits

/-- The rows of all items, in as many rows each; an item that does not fit whole is not drawn. -/
def listRows (now : Moment) (a : App α) (inner : Area) : List (List Span) :=
  if a.snapshot.companions.isEmpty then
    [[⟨if a.snapshot.isLoading then "Loading..." else "No companions", {}⟩]]
  else
    let rows := rowsPerItem a.surface.geometry.extent
    if inner.height < rows then []
    else
      (inView a inner.height).flatMap fun (i, c) =>
        let lines := rowsOf now c (i = a.selected) rows inner.width
        lines ++ List.replicate (rows - lines.length) []

/-- Draw the list; it takes note of the height that it has. -/
def drawList (now : Moment) (area : Area) (a : App α) (c : Canvas) : App α × Canvas :=
  if area.width < 3 ∨ area.height < 3 then (a, c)
  else
    let inner := area.inner
    let a :=
      { a with surface := a.surface.withContainer (Length.ofIndex (UInt64.ofNat inner.height)) }
    let c := c.drawBox area { foreground := some .cyan } (listTitle a)
    let rows := (listRows now a inner).take inner.height
    (a, rows.zipIdx.foldl (fun c (spans, i) => c.drawSpans (inner.row i) spans) c)

end Companions.Screen
