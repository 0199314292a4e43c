import Companions.Failure
import Companions.PageCache
import Companions.Toggle

/-! The list on show and what is known about the requests behind it. Requests take tickets, and only
the answer to the newest ticket is shown. A change of a favorite starts a new epoch; a page asked
for in an earlier epoch is not kept. -/
namespace Companions

inductive Phase
  | idle
  | loading
  | success
  | error
  deriving DecidableEq

def Phase.name : Phase → String
  | idle => "Idle"
  | loading => "Loading"
  | success => "Success"
  | error => "Error"

/-- All that is needed to draw the list. -/
structure Snapshot where
  roster : Roster := {}
  total : UInt64 := 0
  recents : UInt64 := 0
  phase : Phase := .idle
  /-- Whether the request under way is a search. -/
  searching : Bool := false
  error : Option Failure := none
  descriptor : Descriptor := {}
  /-- Counts how often the companions were replaced. -/
  generation : UInt64 := 0

def Snapshot.companions (s : Snapshot) : List Companion := s.roster.companions

def Snapshot.isLoading (s : Snapshot) : Bool := s.phase == .loading

structure Catalog where
  shown : Snapshot := {}
  /-- The newest ticket. -/
  newest : UInt64 := 0
  /-- The current epoch. -/
  epoch : UInt64 := 0
  /-- The epoch of the newest ticket. -/
  issuedIn : UInt64 := 0
  /-- The answers to toggles since the newest ticket was issued, oldest first. -/
  confirmed : List (Int64 × Bool) := []
  /-- The toggles without an answer, of different companions. -/
  pending : List Toggle := []
  /-- The filter to go back to from a scene. -/
  beforeScene : Filter := .all
  cache : PageCache
  /-- The snapshot sent last to whoever watches, and how many were sent. -/
  published : Snapshot := {}
  publications : Nat := 0
  pageLimit : UInt32 := 50
  searchLimit : UInt32 := 50

namespace Catalog

/-- A catalog that asks for pages of the given sizes, of at least one companion. -/
def withLimits (cache : PageCache) (pageLimit searchLimit : UInt32) : Catalog :=
  let atLeastOne (n : UInt32) : UInt32 := if n = 0 then 1 else n
  { cache, pageLimit := atLeastOne pageLimit, searchLimit := atLeastOne searchLimit }

def publish (c : Catalog) : Catalog :=
  { c with published := c.shown, publications := c.publications + 1 }

/-- Hand out a new ticket. -/
def issue (c : Catalog) : Catalog :=
  { c with newest := c.newest + 1, issuedIn := c.epoch, confirmed := [] }

/-- Start a new epoch, in which no page held so far is good. -/
def outdate (c : Catalog) : Catalog := { c with epoch := c.epoch + 1, cache := c.cache.clear }

/-- Whether the page asked for with the newest ticket may be kept: nothing has touched the favorites
since then, and no toggle waits for its answer. -/
def cacheable (c : Catalog) : Bool := c.pending.isEmpty && c.epoch == c.issuedIn

def pendingFor? (id : Int64) (c : Catalog) : Option Toggle := c.pending.find? fun t => t.id == id

/-- Show answers that came in meanwhile, and then the toggles without one. -/
def reconcile (confirmed : List (Int64 × Bool)) (pending : List Toggle) (r : Roster) : Roster :=
  pending.foldl (fun r t => t.overlay r) (confirmed.foldl (fun r (id, value) => r.mark id value) r)

/-- Replace the list on show. A search result has no counters of its own, so those of the tabs
stay. -/
def display (page : Page) (counted : Bool) (c : Catalog) : Catalog :=
  let favorites := if counted then page.favorites else c.shown.roster.favorites
  let recents := if counted then page.recents else c.shown.recents
  let shown : Snapshot :=
    { c.shown with
      roster := reconcile c.confirmed c.pending ⟨page.companions, favorites⟩
      total := page.total
      recents := recents
      phase := .success
      searching := false
      error := none
      generation := c.shown.generation + 1 }
  { c with shown := shown }

/-- Show that a request is under way. -/
def awaitAnswer (searching : Bool) (c : Catalog) : Catalog :=
  { c with shown := { c.shown with phase := .loading, searching, error := none } }

/-- Show that a request failed; the list stays. -/
def fail (f : Failure) (c : Catalog) : Catalog :=
  { c with shown := { c.shown with phase := .error, searching := false, error := some f } }

end Catalog
end Companions
