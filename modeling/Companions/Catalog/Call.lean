import Companions.Backend.Request
import Companions.Catalog.Basic
import Companions.Text.Search

/-! What can be asked of a catalog, as sections without interruption. An operation runs until it
ends or asks the backend; with the backend's answer it runs on. Between its sections any other
operation may run. -/
namespace Companions

inductive Operation
  | load (descriptor : Descriptor)
  | reload
  | search (text : String)
  | setFilter (filter : Filter)
  | setSort (sort : SortOrder)
  | setGroup (group : Option Int64)
  | toggle (id : Int64)
  | reorder (placements : List Placement)
  | access (record : AccessRecord)

/-- Where an operation stands while the backend has not answered. -/
inductive Await
  | page (ticket : UInt64) (descriptor : Descriptor)
  | found (ticket : UInt64)
  | favorite (id : Int64)
  | order
  | receipt

/-- What a successful answer brings. A toggle brings the favorite if there is one now. -/
abbrev Await.Answer : Await → Type
  | page _ _ | found _ => Page
  | favorite _ => Option Favorite
  | order | receipt => Unit

abbrev Await.Reply (w : Await) : Type := Except BackendError w.Answer

inductive ToggleOutcome
  | confirmed (isFavorite : Bool)
  /-- A toggle of that companion has no answer yet. -/
  | alreadyPending
  /-- The companion is not on show. -/
  | notFound
  deriving DecidableEq

/-- How an operation ended. -/
inductive Outcome
  | page (result : Except Failure Page)
  | toggle (result : Except Failure ToggleOutcome)
  | access (result : Except Failure Unit)

inductive Progress
  | asks (request : Request) (await : Await)
  | ends (outcome : Outcome)

namespace Catalog

/-- Load a view, from the cache if it has a good page. -/
def beginLoad (now : Nanos) (d : Descriptor) (c : Catalog) : Catalog × Progress :=
  let c := c.issue
  let c := { c with shown := { c.shown with descriptor := d } }
  match c.cache.get now d with
  | (some page, cache) =>
    ((({ c with cache } : Catalog).display page true).publish, .ends (.page (.ok page)))
  | (none, cache) =>
    ((({ c with cache } : Catalog).awaitAnswer false).publish,
      .asks (.query d c.pageLimit) (.page c.newest d))

/-- Search for a text that is not blank, in the filter on show. -/
def beginSearch (text : String) (c : Catalog) : Catalog × Progress :=
  let c := c.issue
  let d := { c.shown.descriptor with search := text }
  let c := { c with shown := { c.shown with descriptor := d } }
  ((c.awaitAnswer true).publish,
    .asks (.search text c.shown.descriptor.filter.searchScope c.searchLimit) (.found c.newest))

/-- The view with another filter, without scene; the filter is remembered unless it is a scene's. -/
def beginFilter (now : Nanos) (filter : Filter) (c : Catalog) : Catalog × Progress :=
  let c := if filter = .scene then c else { c with beforeScene := filter }
  c.beginLoad now { filter, sort := c.shown.descriptor.sort, search := c.shown.descriptor.search }

/-- Go to a scene, or back to the filter before it. -/
def beginGroup (now : Nanos) (group : Option Int64) (c : Catalog) : Catalog × Progress :=
  let d := c.shown.descriptor
  match group with
  | some id =>
    let c := if d.filter = .scene then c else { c with beforeScene := d.filter }
    c.beginLoad now { filter := .scene, group := some id, sort := d.sort, search := d.search }
  | none => c.beginLoad now { filter := c.beforeScene, sort := d.sort, search := d.search }

/-- Turn a favorite flag over and ask the backend to do the same. -/
def beginToggle (id : Int64) (c : Catalog) : Catalog × Progress :=
  match c.pendingFor? id with
  | some _ => (c, .ends (.toggle (.ok .alreadyPending)))
  | none =>
    match Toggle.apply id c.shown.roster with
    | none => (c, .ends (.toggle (.ok .notFound)))
    | some (toggle, roster) =>
      let c := { c with shown := { c.shown with roster }, pending := c.pending ++ [toggle] }
      (c.outdate.publish, .asks (.toggle id) (.favorite id))

def start (now : Nanos) (op : Operation) (c : Catalog) : Catalog × Progress :=
  match op with
  | .load d => c.beginLoad now d
  | .reload => c.beginLoad now c.shown.descriptor
  | .search text =>
    let text := Text.trim text
    if text = "" then c.beginLoad now { c.shown.descriptor with search := "" }
    else c.beginSearch text
  | .setFilter filter => c.beginFilter now filter
  | .setSort sort => c.beginLoad now { c.shown.descriptor with sort }
  | .setGroup group => c.beginGroup now group
  | .toggle id => c.beginToggle id
  | .reorder placements => (c, .asks (.reorder placements) .order)
  | .access record => (c, .asks (.access record) .receipt)

/-- Take a page. The answer to an old ticket changes nothing. -/
def landPage (now : Nanos) (ticket : UInt64) (d : Descriptor) (reply : Except BackendError Page)
    (c : Catalog) : Catalog × Except Failure Page :=
  let result := reply.mapError Failure.ofBackend
  if ticket ≠ c.newest then (c, result)
  else
    match result with
    | .ok page =>
      let c := if c.cacheable then { c with cache := c.cache.set now d page } else c
      ((c.display page true).publish, result)
    | .error f =>
      ({ c with shown := { c.shown with phase := .error, error := some f } }.publish, result)

/-- Take a search result, which is never kept. -/
def landSearch (ticket : UInt64) (reply : Except BackendError Page) (c : Catalog) :
    Catalog × Except Failure Page :=
  let result := reply.mapError Failure.ofBackend
  if ticket ≠ c.newest then (c, result)
  else
    match result with
    | .ok page => ((c.display page false).publish, result)
    | .error f => ((c.fail f).publish, result)

/-- Take the answer to a toggle: the backend's flag, or the one from before if it failed. -/
def settleToggle (id : Int64) (reply : Except BackendError (Option Favorite)) (c : Catalog) :
    Catalog × Except Failure ToggleOutcome :=
  match c.pendingFor? id with
  | none => (c, .ok .notFound)
  | some toggle =>
    let c := { c with pending := c.pending.filter fun t => t.id != id }
    match reply with
    | .ok favorite =>
      let value := favorite.isSome
      let roster := (toggle.confirm value c.shown.roster).2
      let c :=
        { c with
          shown := { c.shown with roster }
          epoch := c.epoch + 1
          confirmed := c.confirmed ++ [(id, value)] }
      (c.publish, .ok (.confirmed value))
    | .error e =>
      let f := Failure.ofBackend e
      let roster := (toggle.rollBack c.shown.roster).2
      ({ c with shown := { c.shown with roster, error := some f } }.publish, .error f)

/-- Take the answer to a new order; the favorites are then loaded in it. -/
def landOrder (now : Nanos) (reply : Except BackendError Unit) (c : Catalog) : Catalog × Progress :=
  match reply with
  | .error e => (c, .ends (.page (.error (Failure.ofBackend e))))
  | .ok _ =>
    { c with cache := c.cache.clear, beforeScene := .favorite }.beginLoad now
      { filter := .favorite, sort := .favorite }

/-- Go on with an operation. -/
def resume (now : Nanos) (w : Await) (reply : w.Reply) (c : Catalog) : Catalog × Progress :=
  match w, reply with
  | .page ticket d, reply =>
    let (c, result) := c.landPage now ticket d reply
    (c, .ends (.page result))
  | .found ticket, reply =>
    let (c, result) := c.landSearch ticket reply
    (c, .ends (.page result))
  | .favorite id, reply =>
    let (c, result) := c.settleToggle id reply
    (c, .ends (.toggle result))
  | .order, reply => c.landOrder now reply
  | .receipt, reply => (c, .ends (.access (reply.mapError Failure.ofBackend)))

end Catalog
end Companions
