import Companions.Text.Blank
import Companions.Text.Cluster
import Companions.Text.Width

/-! A terminal screen as a grid of cells, and drawing text on it. -/
namespace Companions

inductive Color
  | reset
  | black
  | red
  | green
  | yellow
  | cyan
  | gray
  | darkGray
  | white
  deriving DecidableEq

def Color.name : Color → String
  | reset => "Reset"
  | black => "Black"
  | red => "Red"
  | green => "Green"
  | yellow => "Yellow"
  | cyan => "Cyan"
  | gray => "Gray"
  | darkGray => "DarkGray"
  | white => "White"

/-- What is changed when something is drawn. -/
structure Pen where
  foreground : Option Color := none
  background : Option Color := none
  bold : Bool := false
  deriving DecidableEq

structure Look where
  foreground : Color := .reset
  background : Color := .reset
  bold : Bool := false
  deriving DecidableEq, Inhabited

def Look.with (p : Pen) (l : Look) : Look :=
  { foreground := p.foreground.getD l.foreground
    background := p.background.getD l.background
    bold := l.bold || p.bold }

/-- A cell holds one cluster. A cluster of two columns leaves the cell after it blank. -/
structure Cell where
  symbol : List Char := [' ']
  look : Look := {}
  deriving DecidableEq, Inhabited

structure Area where
  x : Nat
  y : Nat
  width : Nat
  height : Nat

namespace Area

def right (a : Area) : Nat := a.x + a.width

def bottom (a : Area) : Nat := a.y + a.height

/-- The area inside a border. -/
def inner (a : Area) : Area := ⟨a.x + 1, a.y + 1, a.width - 2, a.height - 2⟩

/-- One row of the area. -/
def row (a : Area) (i : Nat) : Area := ⟨a.x, a.y + i, a.width, 1⟩

end Area

/-- A piece of text drawn with one pen. -/
structure Span where
  text : String
  pen : Pen := {}

structure Canvas where
  width : Nat
  height : Nat
  /-- Row by row. -/
  cells : Array Cell

namespace Canvas

def blank (width height : Nat) : Canvas := ⟨width, height, Array.replicate (width * height) {}⟩

def cell (c : Canvas) (x y : Nat) : Cell :=
  if x < c.width then c.cells.getD (y * c.width + x) {} else {}

def modify (x y : Nat) (f : Cell → Cell) (c : Canvas) : Canvas :=
  if x < c.width then { c with cells := c.cells.modify (y * c.width + x) f } else c

/-- Apply `f` to every cell of an area. -/
def fill (a : Area) (f : Cell → Cell) (c : Canvas) : Canvas :=
  (List.range a.height).foldl
    (fun c j => (List.range a.width).foldl (fun c i => c.modify (a.x + i) (a.y + j) f) c) c

def paint (a : Area) (p : Pen) (c : Canvas) : Canvas :=
  c.fill a fun cell => { cell with look := cell.look.with p }

def erase (a : Area) (c : Canvas) : Canvas := c.fill a fun _ => {}

def put (x y : Nat) (symbol : List Char) (p : Pen) (c : Canvas) : Canvas :=
  c.modify x y fun cell => { symbol, look := cell.look.with p }

def append (x y : Nat) (symbol : List Char) (p : Pen) (c : Canvas) : Canvas :=
  c.modify x y fun cell => { symbol := cell.symbol ++ symbol, look := cell.look.with p }

/-- The cells behind a wide cluster. -/
def hide (x y n : Nat) (c : Canvas) : Canvas := c.erase ⟨x, y, n, 1⟩

/-- Draw clusters from `x` on while they end within `right`. One without width joins the one before;
`start` is where the text begins. -/
def drawClusters (start right y : Nat) (p : Pen) (x : Nat) (first : Bool) :
    List (List Char) → Canvas → Canvas
  | [], c => c
  | g :: gs, c =>
    let w := Text.width g
    if right < x + w then c
    else
      let c :=
        if first then c.put x y g p
        else if x = start then c.append x y g p
        else if w = 0 then c.append (x - 1) y g p
        else c.put x y g p
      drawClusters start right y p (x + w) false gs (c.hide (x + 1) y (w - 1))

/-- The clusters of a text, without line ends. -/
def clustersOf (text : String) : List (List Char) :=
  (Text.clusters text.toList).filter fun g => g != ['\n']

/-- Draw pieces of text one after the other, as far as the area is wide. -/
def drawSpans (a : Area) : List Span → Canvas → Canvas
  | [], c => c
  | s :: ss, c =>
    if a.width = 0 then c
    else
      let w := Text.width s.text.toList
      let c := drawClusters a.x a.right a.y s.pen a.x true (clustersOf s.text) c
      drawSpans { a with x := a.x + w, width := a.width - w } ss c

def drawLine (a : Area) (text : String) (c : Canvas) : Canvas := c.drawSpans a [⟨text, {}⟩]

/-- The clusters that fit into `room` columns, with their pens; a cluster wider than the whole line
is left out, and the first that no longer fits ends the line. -/
def fit (max used : Nat) : List (List Char × Pen) → List (List Char × Pen)
  | [] => []
  | (g, p) :: gs =>
    let w := Text.width g
    if max < w then fit max used gs
    else if max < used + w then []
    else (g, p) :: fit max (used + w) gs

def lineWidth (gs : List (List Char × Pen)) : Nat := gs.foldl (fun n g => n + Text.width g.1) 0

def penned (spans : List Span) : List (List Char × Pen) :=
  spans.flatMap fun s => (clustersOf s.text).map fun g => (g, s.pen)

/-- Draw clusters from `x` on, leaving out those without width. -/
def drawFitted (x y : Nat) : List (List Char × Pen) → Canvas → Canvas
  | [], c => c
  | (g, p) :: gs, c =>
    let w := Text.width g
    drawFitted (x + w) y gs (if w = 0 then c else c.put x y g p)

/-- Draw one line of a paragraph, in the middle if asked for. -/
def drawRow (a : Area) (centered : Bool) (spans : List Span) (c : Canvas) : Canvas :=
  let gs := fit a.width 0 (penned spans)
  let offset := if centered then a.width / 2 - lineWidth gs / 2 else 0
  drawFitted (a.x + offset) a.y gs c

/-- Draw the lines of a paragraph, as many as the area is high. -/
def drawRows (a : Area) (centered : Bool) (lines : List (List Span)) (c : Canvas) : Canvas :=
  (lines.take a.height).zipIdx.foldl (fun c (spans, i) => c.drawRow (a.row i) centered spans) c

/-- A border with a title that starts behind the corner. -/
def drawBox (a : Area) (p : Pen) (title : String) (c : Canvas) : Canvas :=
  if a.width = 0 ∨ a.height = 0 then c
  else
    let r := a.right - 1
    let b := a.bottom - 1
    let across (y : Nat) (c : Canvas) : Canvas :=
      (List.range a.width).foldl (fun c i => c.put (a.x + i) y ['─'] p) c
    let down (x : Nat) (c : Canvas) : Canvas :=
      (List.range a.height).foldl (fun c i => c.put x (a.y + i) ['│'] p) c
    let c := (((c |> down a.x) |> down r) |> across a.y) |> across b
    let c := (((c.put a.x a.y ['┌'] p).put r a.y ['┐'] p).put a.x b ['└'] p).put r b ['┘'] p
    let top : Area := ⟨a.x + 1, a.y, a.width - 2, 1⟩
    let w := min (Text.width title.toList) top.width
    c.drawLine { top with width := w } title

/-- A row as text; the cells behind a wide cluster are passed over. -/
def rowText (c : Canvas) (y : Nat) : String :=
  let step := fun ((out, skip) : List Char × Nat) x =>
    if skip ≠ 0 then (out, skip - 1)
    else
      let g := (c.cell x y).symbol
      (g.reverse ++ out, Text.width g - 1)
  let chars := ((List.range c.width).foldl step ([], 0)).1
  String.ofList (chars.dropWhile Text.isBlank).reverse

/-- The rows of the screen without trailing white space. -/
def rows (c : Canvas) : List String := (List.range c.height).map c.rowText

/-- A stretch of neighbouring cells of one look. -/
structure Stretch where
  x : Nat
  length : Nat
  look : Look

def extendStretches (stretches : List Stretch) (x : Nat) (look : Look) : List Stretch :=
  if look = {} then stretches
  else
    match stretches with
    | s :: ss =>
      if s.look = look ∧ s.x + s.length = x then { s with length := s.length + 1 } :: ss
      else ⟨x, 1, look⟩ :: s :: ss
    | [] => [⟨x, 1, look⟩]

/-- The stretches of a row that do not have the plain look. -/
def stretches (c : Canvas) (y : Nat) : List Stretch :=
  ((List.range c.width).foldl (fun ss x => extendStretches ss x (c.cell x y).look) []).reverse

end Canvas
end Companions
