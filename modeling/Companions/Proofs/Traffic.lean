import Companions.Catalog.Call
import Companions.Proofs.Roster
import Mathlib.Data.Finset.Card

/-! A catalog in traffic with a backend. Operations start at any time, the backend answers in any
order, and an answer may be long under way. Beside the catalog a state holds what an observer of
both sides knows; the catalog reads none of it. -/
namespace Companions

/-- What a ticket is taken for: the page of a view, or a search in it. -/
structure Quest where
  view : Descriptor := {}
  isSearch : Bool := false

namespace Quest

/-- What the backend is asked, unless the cache has the page. -/
def request (pageLimit searchLimit : UInt32) (q : Quest) : Request :=
  if q.isSearch then .search q.view.search q.view.filter.searchScope searchLimit
  else .query q.view pageLimit

/-- The list that is loaded once the favorites have a new order. -/
def reordered : Quest := ⟨{ filter := .favorite, sort := .favorite }, false⟩

end Quest

/-- The quest that an operation begins, if it begins one. -/
def Operation.quest? (c : Catalog) : Operation → Option Quest
  | .load d => some ⟨d, false⟩
  | .reload => some ⟨c.shown.descriptor, false⟩
  | .search text =>
    some ⟨{ c.shown.descriptor with search := Text.trim text }, Text.trim text ≠ ""⟩
  | .setFilter filter =>
    some ⟨{ filter, sort := c.shown.descriptor.sort, search := c.shown.descriptor.search }, false⟩
  | .setSort sort => some ⟨{ c.shown.descriptor with sort }, false⟩
  | .setGroup none =>
    some ⟨{ filter := c.beforeScene, sort := c.shown.descriptor.sort,
            search := c.shown.descriptor.search }, false⟩
  | .setGroup (some id) =>
    some ⟨{ filter := .scene, group := some id, sort := c.shown.descriptor.sort,
            search := c.shown.descriptor.search }, false⟩
  | .toggle _ | .reorder _ | .access _ => none

/-- The filter to go back to from a scene, once an operation has started. -/
def Operation.wayBack (c : Catalog) : Operation → Filter
  | .setFilter filter => if filter = .scene then c.beforeScene else filter
  | .setGroup (some _) =>
    if c.shown.descriptor.filter = .scene then c.beforeScene else c.shown.descriptor.filter
  | _ => c.beforeScene

namespace Await

def ticket? : Await → Option UInt64
  | page ticket _ | found ticket => some ticket
  | favorite _ | order | receipt => none

def favorite? : Await → Option Int64
  | favorite id => some id
  | page _ _ | found _ | order | receipt => none

@[simp] theorem favorite?_favorite (id : Int64) : (favorite id).favorite? = some id := rfl

theorem favorite?_eq_some {w : Await} {id : Int64} : w.favorite? = some id ↔ w = favorite id := by
  cases w <;> simp [favorite?]

/-- The page that a reply brings. -/
def page? : (w : Await) → w.Reply → Option Page
  | page _ _, .ok p => some p
  | found _, .ok p => some p
  | _, _ => none

/-- The flag that a reply gives to the companion of a toggle. -/
def flag? : (w : Await) → w.Reply → Option Bool
  | favorite _, .ok f => some f.isSome
  | _, _ => none

/-- The quest that an operation begins when it goes on with a reply. -/
def quest? : (w : Await) → w.Reply → Option Quest
  | order, .ok _ => some Quest.reordered
  | _, _ => none

end Await

/-- A request under way, in either direction. -/
structure Errand where
  request : Request
  await : Await
  /-- The reply, once the backend has given it, and the favorites it held at that moment. -/
  answer : Option (await.Reply × Finset Int64) := none
  /-- The tickets issued and the epochs begun when it was sent. -/
  ticket : Nat
  epoch : Nat
  /-- The favorites that the backend held when it was sent. -/
  before : Finset Int64

/-- A page that has arrived, whether it was shown or not. -/
structure Receipt where
  request : Request
  page : Page
  time : Nanos
  /-- The number of the ticket it answers. -/
  ticket : Nat
  /-- The favorites that the backend held when it gave the page. -/
  taken : Finset Int64

structure Traffic where
  catalog : Catalog
  now : Nanos := 0
  errands : List Errand := []
  /-- The favorites that the backend holds. -/
  held : Finset Int64
  /-- How many tickets have been issued and how many epochs begun. -/
  tickets : Nat := 0
  epochs : Nat := 0
  /-- What the newest ticket was taken for, and when. -/
  quest : Quest := {}
  questTime : Nanos := 0
  receipts : List Receipt := []

/-- The errand of an operation that waits for the backend. -/
def Progress.errands (ticket epoch : Nat) (before : Finset Int64) : Progress → List Errand
  | .asks request await => [{ request, await, ticket, epoch, before }]
  | .ends _ => []

section Lists
variable {es xs ys : List Errand} {e e' : Errand}

theorem mem_of_drop (h : es = xs ++ e :: ys) : ∀ x ∈ xs ++ ys, x ∈ es := by
  intro x hx
  simp only [h, List.mem_append, List.mem_cons] at hx ⊢
  tauto

theorem mem_of_replace (h : es = xs ++ e :: ys) : ∀ x ∈ xs ++ e' :: ys, x ∈ es ∨ x = e' := by
  intro x hx
  simp only [h, List.mem_append, List.mem_cons] at hx ⊢
  tauto

end Lists

namespace Traffic

/-- Before the first operation. -/
def Initial (s : Traffic) : Prop :=
  ∃ ttl capacity pageLimit searchLimit now held,
    s = { catalog := .withLimits (.ofCapacity ttl capacity) pageLimit searchLimit, now, held }

/-- The first state with the usual limits, against a backend that holds these favorites. -/
def fresh (held : Finset Int64) : Traffic :=
  { catalog := .withLimits (.ofCapacity PageCache.defaultTtl PageCache.defaultCapacity) 50 50
    held }

theorem initial_fresh (held : Finset Int64) : (fresh held).Initial := ⟨_, _, _, _, _, _, rfl⟩

/-- The catalog has run a section. -/
def proceed (quest? : Option Quest) (next : Catalog × Progress) (s : Traffic) : Traffic :=
  let tickets := if quest?.isSome then s.tickets + 1 else s.tickets
  let epochs := if next.1.epoch = s.catalog.epoch then s.epochs else s.epochs + 1
  { s with
    catalog := next.1
    tickets
    epochs
    quest := quest?.getD s.quest
    questTime := if quest?.isSome then s.now else s.questTime
    errands := s.errands ++ next.2.errands tickets epochs s.held }

def start (op : Operation) (s : Traffic) : Traffic :=
  s.proceed (op.quest? s.catalog) (s.catalog.start s.now op)

/-- The reply to an errand arrives. -/
def land (e : Errand) (reply : e.await.Reply) (taken : Finset Int64) (s : Traffic) : Traffic :=
  let arrived := (e.await.page? reply).map fun page => ⟨e.request, page, s.now, e.ticket, taken⟩
  { s with receipts := s.receipts ++ arrived.toList }.proceed (e.await.quest? reply)
    (s.catalog.resume s.now e.await reply)

/-- Some pages are kept no longer. -/
def keepOnly (pages : List Kept) (s : Traffic) : Traffic :=
  { s with catalog := { s.catalog with cache := { s.catalog.cache with pages } } }

/-- Fewer than 2⁶⁴ tickets and epochs have passed since an errand was sent. Both are counted in 64
bits, so that a ticket still older would be taken for the newest. -/
def Prompt (e : Errand) (s : Traffic) : Prop :=
  s.tickets < e.ticket + 2 ^ 64 ∧ s.epochs < e.epoch + 2 ^ 64

end Traffic

/-- What may be expected of a backend: which replies it gives while it holds these favorites, and
which it holds after that. -/
abbrev Conduct := (w : Await) → Finset Int64 → w.Reply → Finset Int64 → Prop

inductive Event
  | start (op : Operation)
  /-- The backend gives its reply. -/
  | answer (e : Errand)
  /-- The reply arrives. -/
  | land (e : Errand)
  | wait (span : Nanos)
  /-- Every page held is declared out of date. -/
  | outdate
  /-- The cache is left with these of its pages. -/
  | evict (pages : List Kept)

inductive Step (k : Conduct) : Traffic → Event → Traffic → Prop
  | start (s : Traffic) (op : Operation) : Step k s (.start op) (s.start op)
  | answer {s : Traffic} {xs ys : List Errand} {e : Errand} {reply : e.await.Reply}
      {held : Finset Int64} (hs : s.errands = xs ++ e :: ys) (ha : e.answer = none)
      (hk : k e.await s.held reply held) :
      Step k s (.answer e)
        { s with errands := xs ++ { e with answer := some (reply, s.held) } :: ys, held }
  | land {s : Traffic} {xs ys : List Errand} {e : Errand} {reply : e.await.Reply}
      {taken : Finset Int64} (hs : s.errands = xs ++ e :: ys) (ha : e.answer = some (reply, taken))
      (hp : e.await.ticket?.isSome → s.Prompt e) :
      Step k s (.land e) ({ s with errands := xs ++ ys }.land e reply taken)
  | wait (s : Traffic) (span : Nanos) : Step k s (.wait span) { s with now := s.now + span }
  | outdate (s : Traffic) :
      Step k s .outdate { s with catalog := s.catalog.outdate, epochs := s.epochs + 1 }
  | evict {s : Traffic} {pages : List Kept} (hp : pages.Sublist s.catalog.cache.pages) :
      Step k s (.evict pages) (s.keepOnly pages)

inductive Run (k : Conduct) : Traffic → List Event → Traffic → Prop
  | refl (s : Traffic) : Run k s [] s
  | step {s t u : Traffic} {a : Event} {as : List Event} (h : Step k s a t) (hr : Run k t as u) :
      Run k s (a :: as) u

def Reachable (k : Conduct) (s : Traffic) : Prop := ∃ s₀ as, s₀.Initial ∧ Run k s₀ as s

theorem Run.append {k : Conduct} {s t u : Traffic} {as bs : List Event} (h : Run k s as t)
    (h' : Run k t bs u) : Run k s (as ++ bs) u := by
  induction h with
  | refl => exact h'
  | step h _ ih => exact .step h (ih h')

theorem Run.snoc {k : Conduct} {s t u : Traffic} {as : List Event} {a : Event} (h : Run k s as t)
    (hs : Step k t a u) : Run k s (as ++ [a]) u :=
  h.append (.step hs (.refl u))

theorem Reachable.fresh (k : Conduct) (held : Finset Int64) : Reachable k (.fresh held) :=
  ⟨_, [], Traffic.initial_fresh held, .refl _⟩

theorem Reachable.step {k : Conduct} {s t : Traffic} {a : Event} (h : Reachable k s)
    (hs : Step k s a t) : Reachable k t := by
  obtain ⟨s₀, as, h₀, hr⟩ := h
  exact ⟨s₀, _, h₀, hr.snoc hs⟩

theorem Run.invariant {k : Conduct} {P : Traffic → Prop} {Q : Event → Prop} {s t : Traffic}
    {as : List Event} (hP : ∀ s a t, Q a → P s → Step k s a t → P t) (h : Run k s as t)
    (ha : ∀ a ∈ as, Q a) (hs : P s) : P t := by
  induction h with
  | refl => exact hs
  | step h _ ih =>
    simp only [List.mem_cons, forall_eq_or_imp] at ha
    exact ih ha.2 (hP _ _ _ ha.1 hs h)

theorem Reachable.invariant {k : Conduct} {P : Traffic → Prop} {s : Traffic}
    (hi : ∀ s, s.Initial → P s) (hP : ∀ s a t, P s → Step k s a t → P t) (h : Reachable k s) :
    P s := by
  obtain ⟨s₀, as, h₀, hr⟩ := h
  exact hr.invariant (Q := fun _ => True) (fun s a t _ => hP s a t) (fun _ _ => trivial) (hi s₀ h₀)

end Companions
