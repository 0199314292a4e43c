import Companions.Catalog.Call
import Companions.Debounce
import Companions.Viewport.Basic

/-! What the user does with the list, and the part of it that is to be drawn. -/
namespace Companions

inductive Layout (α : Type)
  | list
  | grid (grid : Grid α)

structure Surface (α : Type) where
  geometry : Geometry α
  layout : Layout α := .list
  scroll : α
  /-- A list with at most this many companions is drawn whole. -/
  threshold : UInt64 := 50
  debouncer : Debouncer

/-- One frame. -/
structure ListView (α : Type) where
  visible : List Companion
  loading : Bool
  error : Option Failure
  viewport : Viewport α

inductive SurfaceEvent (α : Type)
  | scroll (offset : α)
  | toggle (id : Int64)
  | search (text : String)
  | filter (filter : Filter)
  | sort (sort : SortOrder)
  | group (group : Option Int64)
  | reload

/-- Work that an event starts. -/
inductive Task
  | operation (op : Operation)
  /-- A search text that waits for its quiet window. -/
  | settle (ticket : UInt64)

namespace Surface

variable {α : Type} [Length α]

def withContainer (container : α) (s : Surface α) : Surface α :=
  { s with geometry := { s.geometry with container } }

/-- Scroll as little as needed to show an item whole. -/
def reveal (index : UInt64) (s : Surface α) : Surface α :=
  { s with scroll := s.geometry.intoView index s.scroll }

def toTop (s : Surface α) : Surface α := { s with scroll := Length.zero }

/-- Scrolling is done at once; a search waits; everything else starts at once. A new view starts at
the top, and a new filter gives up a search that waits. -/
def dispatch (now : Nanos) (e : SurfaceEvent α) (s : Surface α) : Surface α × Option Task :=
  match e with
  | .scroll offset => ({ s with scroll := offset }, none)
  | .search text =>
    let debouncer := s.debouncer.submit now text
    ({ s with debouncer }, some (.settle debouncer.latest))
  | .toggle id => (s, some (.operation (.toggle id)))
  | .filter filter =>
    ({ s.toTop with debouncer := s.debouncer.cancel }, some (.operation (.setFilter filter)))
  | .sort sort => (s.toTop, some (.operation (.setSort sort)))
  | .group group => (s.toTop, some (.operation (.setGroup group)))
  | .reload => (s, some (.operation .reload))

/-- The viewport of a list that is drawn whole. -/
def whole (count : UInt64) (s : Surface α) : Viewport α :=
  { s.geometry.compute count s.scroll with
    first := 0, last := Index.sub count 1, paint := Length.zero }

def viewport (count : UInt64) (s : Surface α) : Viewport α :=
  if count ≤ s.threshold then s.whole count
  else
    match s.layout with
    | .list => s.geometry.compute count s.scroll
    | .grid grid =>
      grid.compute count s.geometry.extent s.geometry.container s.geometry.overscan s.scroll

def viewOf (snapshot : Snapshot) (s : Surface α) : ListView α :=
  let viewport := s.viewport (UInt64.ofNat snapshot.companions.length)
  { visible := viewport.slice snapshot.companions
    loading := snapshot.isLoading
    error := snapshot.error
    viewport }

end Surface
end Companions
