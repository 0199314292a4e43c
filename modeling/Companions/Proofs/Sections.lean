import Companions.Proofs.PageCache
import Companions.Proofs.Traffic

/-! What the sections of an operation can do to a catalog, case by case. -/
namespace Companions

namespace Catalog

/-- The first section of a quest. -/
def seek (now : Nanos) (q : Quest) (c : Catalog) : Catalog × Progress :=
  if q.isSearch then c.beginSearch q.view.search else c.beginLoad now q.view

/-- A ticket has been issued for a view. -/
def issueFor (d : Descriptor) (c : Catalog) : Catalog :=
  { c.issue with shown := { c.shown with descriptor := d } }

/-- A search stays in the view on show but for the text. -/
def Offers (q : Quest) (c : Catalog) : Prop :=
  q.isSearch = true → q.view = { c.shown.descriptor with search := q.view.search }

theorem offers_of_load {q : Quest} {c : Catalog} (h : q.isSearch = false) : c.Offers q := by
  intro hs
  rw [h] at hs
  cases hs

/-- The await of a quest that has to ask the backend. -/
def awaitFor (q : Quest) (c : Catalog) : Await :=
  if q.isSearch then .found (c.newest + 1) else .page (c.newest + 1) q.view

inductive Sought (now : Nanos) (q : Quest) (c : Catalog) : Catalog × Progress → Prop
  /-- The cache has the page, and it is shown at once. -/
  | hit {page : Page} (hq : q.isSearch = false) (hg : (c.cache.get now q.view).1 = some page) :
      Sought now q c
        (({ c.issueFor q.view with cache := (c.cache.get now q.view).2 }.display page true).publish,
          .ends (.page (.ok page)))
  | ask {cache : PageCache} (hc : cache = c.cache ∨ cache = (c.cache.get now q.view).2) :
      Sought now q c
        (({ c.issueFor q.view with cache }.awaitAnswer q.isSearch).publish,
          .asks (q.request c.pageLimit c.searchLimit) (c.awaitFor q))

theorem seek_cases (now : Nanos) {q : Quest} {c : Catalog} (hq : c.Offers q) :
    Sought now q c (c.seek now q) := by
  obtain ⟨view, isSearch⟩ := q
  cases isSearch with
  | true =>
    have hv : view = { c.shown.descriptor with search := view.search } := hq rfl
    have hs : c.seek now ⟨view, true⟩ =
        (({ c.issueFor view with cache := c.cache }.awaitAnswer true).publish,
          .asks (.search view.search view.filter.searchScope c.searchLimit)
            (.found (c.newest + 1))) := by
      conv => rhs; rw [hv]
      rfl
    rw [hs]
    exact .ask (Or.inl rfl)
  | false =>
    cases hg : c.cache.get now view with
    | mk found cache =>
      cases found with
      | some page =>
        have hs : c.seek now ⟨view, false⟩ =
            (({ c.issueFor view with cache }.display page true).publish,
              .ends (.page (.ok page))) := by
          simp only [seek, beginLoad, issue, hg]
          rfl
        have h : Sought now ⟨view, false⟩ c _ := .hit rfl (congrArg Prod.fst hg)
        simpa only [hs, hg] using h
      | none =>
        have hs : c.seek now ⟨view, false⟩ =
            (({ c.issueFor view with cache }.awaitAnswer false).publish,
              .asks (.query view c.pageLimit) (.page (c.newest + 1) view)) := by
          simp only [seek, beginLoad, issue, hg]
          rfl
        rw [hs]
        exact .ask (Or.inr (by rw [hg]))

/-- What a section does that begins neither a quest nor an errand for one. -/
theorem start_of_quest?_none (now : Nanos) {op : Operation} {c : Catalog}
    (h : op.quest? c = none) :
    (∃ id, op = .toggle id) ∨
      ∃ r w, c.start now op = (c, .asks r w) ∧ w.ticket? = none ∧ w.favorite? = none := by
  cases op with
  | toggle id => exact Or.inl ⟨id, rfl⟩
  | reorder ps => exact Or.inr ⟨_, _, rfl, rfl, rfl⟩
  | access r => exact Or.inr ⟨_, _, rfl, rfl, rfl⟩
  | setGroup g => cases g <;> simp [Operation.quest?] at h
  | _ => simp [Operation.quest?] at h

/-- Every operation that shows another list begins a quest; at most the filter to go back to from a
scene changes before. -/
theorem start_of_quest? (now : Nanos) {op : Operation} {q : Quest} {c : Catalog}
    (h : op.quest? c = some q) :
    c.Offers q ∧ c.start now op = { c with beforeScene := op.wayBack c }.seek now q := by
  cases op with
  | load d => cases h; exact ⟨offers_of_load rfl, rfl⟩
  | reload => cases h; exact ⟨offers_of_load rfl, rfl⟩
  | search text =>
    cases h
    refine ⟨fun _ => rfl, ?_⟩
    by_cases ht : Text.trim text = "" <;> simp [start, seek, ht, Operation.wayBack]
  | setFilter filter =>
    cases h
    refine ⟨offers_of_load rfl, ?_⟩
    by_cases hf : filter = .scene <;> simp [start, beginFilter, seek, hf, Operation.wayBack]
  | setSort sort => cases h; exact ⟨offers_of_load rfl, rfl⟩
  | setGroup group =>
    cases group with
    | none => cases h; exact ⟨offers_of_load rfl, rfl⟩
    | some id =>
      cases h
      refine ⟨offers_of_load rfl, ?_⟩
      by_cases hf : c.shown.descriptor.filter = .scene <;>
        simp [start, beginGroup, seek, hf, Operation.wayBack]
  | toggle id => simp [Operation.quest?] at h
  | reorder ps => simp [Operation.quest?] at h
  | access r => simp [Operation.quest?] at h

/-- A toggle is shown and sent. -/
def toggled (id : Int64) (former : Bool) (c : Catalog) : Catalog :=
  ({ c with
      shown := { c.shown with roster := c.shown.roster.mark id !former }
      pending := c.pending ++ [⟨id, former, .applied⟩] } : Catalog).outdate.publish

theorem beginToggle_of_flag {id : Int64} {b : Bool} {c : Catalog} (hp : c.pendingFor? id = none)
    (hb : c.shown.roster.flag? id = some b) :
    c.beginToggle id = (c.toggled id b, .asks (.toggle id) (.favorite id)) := by
  simp only [beginToggle, hp, Toggle.apply_of_flag hb]
  rfl

theorem beginToggle_cases (id : Int64) (c : Catalog) :
    (∃ out, c.beginToggle id = (c, .ends out)) ∨
      ∃ b, c.pendingFor? id = none ∧ c.shown.roster.flag? id = some b ∧
        c.beginToggle id = (c.toggled id b, .asks (.toggle id) (.favorite id)) := by
  cases hp : c.pendingFor? id with
  | some toggle => exact Or.inl ⟨.toggle (.ok .alreadyPending), by simp only [beginToggle, hp]⟩
  | none =>
    cases hb : c.shown.roster.flag? id with
    | none =>
      have hf : c.shown.roster.find? id = none := Option.map_eq_none_iff.mp hb
      exact Or.inl ⟨.toggle (.ok .notFound), by
        simp only [beginToggle, hp, Toggle.apply, hf, Option.map_none]⟩
    | some b => exact Or.inr ⟨b, rfl, rfl, beginToggle_of_flag hp hb⟩

/-- The toggle of an id is over, and this is the list now. -/
def settled (id : Int64) (roster : Roster) (c : Catalog) : Catalog :=
  { c with
    shown := { c.shown with roster }
    pending := c.pending.filter fun t => t.id != id }

def confirmedWith (id : Int64) (value : Bool) (roster : Roster) (c : Catalog) : Catalog :=
  { c.settled id roster with
    epoch := c.epoch + 1
    confirmed := c.confirmed ++ [(id, value)] }.publish

def rolledBackFor (id : Int64) (f : Failure) (roster : Roster) (c : Catalog) : Catalog :=
  { c.settled id roster with
    shown := { (c.settled id roster).shown with error := some f } }.publish

theorem settleToggle_ok {id : Int64} {t : Toggle} {c : Catalog} (h : c.pendingFor? id = some t)
    (f : Option Favorite) :
    c.settleToggle id (.ok f) =
      (c.confirmedWith id f.isSome (t.confirm f.isSome c.shown.roster).2,
        .ok (.confirmed f.isSome)) := by
  simp only [settleToggle, h]
  rfl

theorem settleToggle_error {id : Int64} {t : Toggle} {c : Catalog} (h : c.pendingFor? id = some t)
    (b : BackendError) :
    c.settleToggle id (.error b) =
      (c.rolledBackFor id (Failure.ofBackend b) (t.rollBack c.shown.roster).2,
        .error (Failure.ofBackend b)) := by
  simp only [settleToggle, h]
  rfl

/-- What the arrival of a page or of a search result does. -/
inductive Landed (now : Nanos) (t : UInt64) (w : Await) (reply : w.Reply) (c : Catalog) :
    Catalog → Prop
  | stale (ht : t ≠ c.newest) : Landed now t w reply c c
  | failed {searching : Bool} {f : Failure} (ht : t = c.newest) (hp : w.page? reply = none)
      (hs : searching = true → c.shown.searching = true ∧ w ≠ .found t) :
      Landed now t w reply c
        { c with shown := { c.shown with phase := .error, searching, error := some f } }.publish
  | shown {page : Page} {cache : PageCache} {counted : Bool} (ht : t = c.newest)
      (hp : w.page? reply = some page)
      (hc : cache = c.cache ∨
        c.cacheable = true ∧ ∃ d, w = .page t d ∧ cache = c.cache.set now d page)
      (hn : counted = false → w = .found t) :
      Landed now t w reply c ({ c with cache }.display page counted).publish

theorem landPage_landed (now : Nanos) (t : UInt64) (d : Descriptor)
    (reply : Except BackendError Page) (c : Catalog) :
    Landed now t (.page t d) reply c (c.landPage now t d reply).1 := by
  by_cases ht : t = c.newest
  · subst ht
    cases reply with
    | error e =>
      simp only [landPage, ne_eq, not_true_eq_false, if_false, Except.mapError]
      exact .failed rfl rfl fun h => ⟨h, fun hw => by cases hw⟩
    | ok page =>
      simp only [landPage, ne_eq, not_true_eq_false, if_false, Except.mapError]
      split
      · rename_i hc
        exact .shown rfl rfl (Or.inr ⟨hc, d, rfl, rfl⟩) nofun
      · exact .shown rfl rfl (Or.inl rfl) nofun
  · simp only [landPage, ne_eq, ht, not_false_eq_true, if_true]
    exact .stale ht

theorem landSearch_landed (now : Nanos) (t : UInt64) (reply : Except BackendError Page)
    (c : Catalog) : Landed now t (.found t) reply c (c.landSearch t reply).1 := by
  by_cases ht : t = c.newest
  · subst ht
    cases reply with
    | error e =>
      simp only [landSearch, ne_eq, not_true_eq_false, if_false, Except.mapError]
      exact .failed rfl rfl fun h => by cases h
    | ok page =>
      simp only [landSearch, ne_eq, not_true_eq_false, if_false, Except.mapError]
      exact .shown rfl rfl (Or.inl rfl) fun _ => rfl
  · simp only [landSearch, ne_eq, ht, not_false_eq_true, if_true]
    exact .stale ht

theorem resume_landed (now : Nanos) {t : UInt64} {w : Await} (hw : w.ticket? = some t)
    (reply : w.Reply) (c : Catalog) :
    Landed now t w reply c (c.resume now w reply).1 ∧
      ∃ out, (c.resume now w reply).2 = .ends out := by
  cases w with
  | page ticket d => cases hw; exact ⟨landPage_landed now t d reply c, _, rfl⟩
  | found ticket => cases hw; exact ⟨landSearch_landed now t reply c, _, rfl⟩
  | _ => cases hw

end Catalog

namespace Traffic

/-- A quest begins. -/
def seek (q : Quest) (s : Traffic) : Traffic := s.proceed (some q) (s.catalog.seek s.now q)

/-- How a quest goes on: with a page of the cache, or with an errand. -/
inductive Sought (q : Quest) (s : Traffic) : Traffic → Prop
  | hit {page : Page} (hq : q.isSearch = false)
      (hg : (s.catalog.cache.get s.now q.view).1 = some page) :
      Sought q s
        { s with
          catalog := ({ s.catalog.issueFor q.view with
            cache := (s.catalog.cache.get s.now q.view).2 }.display page true).publish
          tickets := s.tickets + 1
          quest := q
          questTime := s.now }
  | ask {cache : PageCache}
      (hc : cache = s.catalog.cache ∨ cache = (s.catalog.cache.get s.now q.view).2) :
      Sought q s
        { s with
          catalog := ({ s.catalog.issueFor q.view with cache }.awaitAnswer q.isSearch).publish
          tickets := s.tickets + 1
          quest := q
          questTime := s.now
          errands := s.errands ++
            [⟨q.request s.catalog.pageLimit s.catalog.searchLimit, s.catalog.awaitFor q, none,
              s.tickets + 1, s.epochs, s.held⟩] }

theorem seek_sought {q : Quest} {s : Traffic} (ho : s.catalog.Offers q) :
    Sought q s (s.seek q) := by
  have h := Catalog.seek_cases s.now ho
  unfold seek
  generalize s.catalog.seek s.now q = next at h
  cases h with
  | hit hq hg =>
    have := Sought.hit (s := s) hq hg
    simpa [proceed, Progress.errands, Catalog.publish, Catalog.display, Catalog.issueFor,
      Catalog.issue] using this
  | ask hc =>
    have := Sought.ask (s := s) (q := q) hc
    simpa [proceed, Progress.errands, Catalog.publish, Catalog.awaitAnswer, Catalog.issueFor,
      Catalog.issue] using this

/-- Before the quest of an operation, at most the filter to go back to changes. -/
def leaving (f : Filter) (s : Traffic) : Traffic :=
  { s with catalog := { s.catalog with beforeScene := f } }

/-- A new order has been accepted, and no page held so far is good. -/
def reordered (s : Traffic) : Traffic :=
  { s with
    catalog := { s.catalog with cache := s.catalog.cache.clear, beforeScene := .favorite } }

end Traffic

open Catalog in
/-- Every step, with the section of the catalog that it runs laid open. -/
inductive Move (k : Conduct) (s : Traffic) : Event → Traffic → Prop
  | seek {op : Operation} {q : Quest} (f : Filter) (hq : op.quest? s.catalog = some q)
      (ho : s.catalog.Offers q) : Move k s (.start op) ((s.leaving f).seek q)
  | refuse (id : Int64) : Move k s (.start (.toggle id)) s
  | toggle {id : Int64} {b : Bool} (hp : s.catalog.pendingFor? id = none)
      (hb : s.catalog.shown.roster.flag? id = some b) :
      Move k s (.start (.toggle id))
        { s with
          catalog := s.catalog.toggled id b
          epochs := s.epochs + 1
          errands := s.errands ++
            [⟨.toggle id, .favorite id, none, s.tickets, s.epochs + 1, s.held⟩] }
  | send (op : Operation) (r : Request) {w : Await} (ht : w.ticket? = none)
      (hf : w.favorite? = none) :
      Move k s (.start op)
        { s with errands := s.errands ++ [⟨r, w, none, s.tickets, s.epochs, s.held⟩] }
  | answer {xs ys : List Errand} {e : Errand} {reply : e.await.Reply} {held : Finset Int64}
      (hs : s.errands = xs ++ e :: ys) (ha : e.answer = none)
      (hk : k e.await s.held reply held) :
      Move k s (.answer e)
        { s with errands := xs ++ { e with answer := some (reply, s.held) } :: ys, held }
  | land {xs ys : List Errand} {e : Errand} {reply : e.await.Reply} {taken : Finset Int64}
      {t : UInt64} {c : Catalog} (hs : s.errands = xs ++ e :: ys)
      (ha : e.answer = some (reply, taken)) (hp : s.Prompt e) (ht : e.await.ticket? = some t)
      (hl : Landed s.now t e.await reply s.catalog c) :
      Move k s (.land e)
        { s with
          catalog := c
          errands := xs ++ ys
          receipts := s.receipts ++
            ((e.await.page? reply).map fun page =>
              ⟨e.request, page, s.now, e.ticket, taken⟩).toList }
  | confirm {xs ys : List Errand} {r : Request} {id : Int64} {f : Option Favorite}
      {taken : Finset Int64} {ticket epoch : Nat} {before : Finset Int64} {t : Toggle}
      (hs : s.errands = xs ++ ⟨r, .favorite id, some (.ok f, taken), ticket, epoch, before⟩ :: ys)
      (ht : s.catalog.pendingFor? id = some t) :
      Move k s (.land ⟨r, .favorite id, some (.ok f, taken), ticket, epoch, before⟩)
        { s with
          catalog := s.catalog.confirmedWith id f.isSome
            (t.confirm f.isSome s.catalog.shown.roster).2
          epochs := s.epochs + 1
          errands := xs ++ ys }
  | rollBack {xs ys : List Errand} {r : Request} {id : Int64} {b : BackendError}
      {taken : Finset Int64} {ticket epoch : Nat} {before : Finset Int64} {t : Toggle}
      (hs : s.errands =
        xs ++ ⟨r, .favorite id, some (.error b, taken), ticket, epoch, before⟩ :: ys)
      (ht : s.catalog.pendingFor? id = some t) :
      Move k s (.land ⟨r, .favorite id, some (.error b, taken), ticket, epoch, before⟩)
        { s with
          catalog := s.catalog.rolledBackFor id (Failure.ofBackend b)
            (t.rollBack s.catalog.shown.roster).2
          errands := xs ++ ys }
  | reorder {xs ys : List Errand} {e : Errand} (hs : s.errands = xs ++ e :: ys)
      (hw : e.await = .order) :
      Move k s (.land e) (({ s with errands := xs ++ ys } : Traffic).reordered.seek .reordered)
  /-- A reply without effect: to an order that failed, to a note, or to an unknown toggle. -/
  | drop {xs ys : List Errand} {e : Errand} (hs : s.errands = xs ++ e :: ys)
      (ht : e.await.ticket? = none) (hf : ∀ id, e.await.favorite? = some id →
        s.catalog.pendingFor? id = none) :
      Move k s (.land e) { s with errands := xs ++ ys }
  | wait (span : Nanos) : Move k s (.wait span) { s with now := s.now + span }
  | outdate : Move k s .outdate { s with catalog := s.catalog.outdate, epochs := s.epochs + 1 }
  | evict {pages : List Kept} (hp : pages.Sublist s.catalog.cache.pages) :
      Move k s (.evict pages) (s.keepOnly pages)

theorem succ_ne (n : UInt64) : n + 1 ≠ n := by
  intro h
  have := congrArg UInt64.toNat h
  simp only [UInt64.toNat_add, UInt64.reduceToNat] at this
  have := n.toNat_lt
  omega

theorem Traffic.proceed_still (s : Traffic) (out : Outcome) :
    s.proceed none (s.catalog, .ends out) = s := by
  simp [proceed, Progress.errands]

theorem Step.move_start (k : Conduct) (s : Traffic) (op : Operation) :
    Move k s (.start op) (s.start op) := by
  unfold Traffic.start
  cases hq : op.quest? s.catalog with
  | some q =>
    obtain ⟨ho, hf⟩ := Catalog.start_of_quest? s.now hq
    rw [hf]
    exact .seek _ hq ho
  | none =>
    rcases Catalog.start_of_quest?_none s.now hq with ⟨id, rfl⟩ | ⟨r, w, hw, ht, hf⟩
    · have hs : s.catalog.start s.now (.toggle id) = s.catalog.beginToggle id := rfl
      rcases Catalog.beginToggle_cases id s.catalog with ⟨out, h⟩ | ⟨b, hp, hb, h⟩
      · rw [hs, h, Traffic.proceed_still]
        exact .refuse id
      · rw [hs, h]
        have he : (s.catalog.toggled id b).epoch ≠ s.catalog.epoch := succ_ne _
        have := Move.toggle (k := k) hp hb
        simpa [Traffic.proceed, he, Progress.errands] using this
    · rw [hw]
      simpa [Traffic.proceed, Progress.errands] using Move.send (k := k) (s := s) op r ht hf

theorem Await.quest?_of_ticket? {w : Await} {t : UInt64} (hw : w.ticket? = some t)
    (reply : w.Reply) : w.quest? reply = none := by
  cases w <;> first | rfl | cases hw

open Catalog in
/-- The arrival of a page or of a search result, laid open. -/
theorem Traffic.land_landed (s : Traffic) (e : Errand) (reply : e.await.Reply)
    (taken : Finset Int64) {n : UInt64} (ht : e.await.ticket? = some n) :
    ∃ c, Landed s.now n e.await reply s.catalog c ∧
      s.land e reply taken =
        { s with
          catalog := c
          receipts := s.receipts ++
            ((e.await.page? reply).map fun page =>
              ⟨e.request, page, s.now, e.ticket, taken⟩).toList } := by
  obtain ⟨hl, out, hout⟩ := resume_landed s.now ht reply s.catalog
  refine ⟨_, hl, ?_⟩
  have he : (s.catalog.resume s.now e.await reply).1.epoch = s.catalog.epoch := by
    generalize (s.catalog.resume s.now e.await reply).1 = c at hl
    cases hl <;> rfl
  have hq := Await.quest?_of_ticket? ht reply
  simp [Traffic.land, Traffic.proceed, hq, he, hout, Progress.errands]

theorem Step.move_land {k : Conduct} {s : Traffic} {xs ys : List Errand} {e : Errand}
    {reply : e.await.Reply} {taken : Finset Int64} (hs : s.errands = xs ++ e :: ys)
    (ha : e.answer = some (reply, taken)) (hp : e.await.ticket?.isSome → s.Prompt e) :
    Move k s (.land e) (({ s with errands := xs ++ ys } : Traffic).land e reply taken) := by
  cases ht : e.await.ticket? with
  | some t =>
    obtain ⟨c, hl, he⟩ := Traffic.land_landed { s with errands := xs ++ ys } e reply taken ht
    rw [he]
    exact .land hs ha (hp (by simp [ht])) ht hl
  | none =>
    obtain ⟨r, w, answer, ticket, epoch, before⟩ := e
    simp only at reply ha
    subst ha
    cases w with
    | page _ _ => cases ht
    | found _ => cases ht
    | favorite id =>
      cases hi : s.catalog.pendingFor? id with
      | none =>
        have h : s.catalog.resume s.now (.favorite id) reply =
            (s.catalog, .ends (.toggle (.ok .notFound))) := by
          simp only [Catalog.resume, Catalog.settleToggle, hi]
        have := Move.drop (k := k) hs rfl fun _ hid => by cases hid; exact hi
        simpa [Traffic.land, Traffic.proceed, Await.page?, Await.quest?, h, Progress.errands]
          using this
      | some toggle =>
        cases reply with
        | ok f =>
          have h : s.catalog.resume s.now (.favorite id) (.ok f) =
              (s.catalog.confirmedWith id f.isSome
                (toggle.confirm f.isSome s.catalog.shown.roster).2,
                .ends (.toggle (.ok (.confirmed f.isSome)))) := by
            simp only [Catalog.resume, Catalog.settleToggle_ok hi]
          have he : (s.catalog.confirmedWith id f.isSome
              (toggle.confirm f.isSome s.catalog.shown.roster).2).epoch ≠ s.catalog.epoch :=
            succ_ne _
          have := Move.confirm (k := k) hs hi
          simpa [Traffic.land, Traffic.proceed, Await.page?, Await.quest?, h, he,
            Progress.errands] using this
        | error b =>
          have h : s.catalog.resume s.now (.favorite id) (.error b) =
              (s.catalog.rolledBackFor id (Failure.ofBackend b)
                (toggle.rollBack s.catalog.shown.roster).2,
                .ends (.toggle (.error (Failure.ofBackend b)))) := by
            simp only [Catalog.resume, Catalog.settleToggle_error hi]
          have he : (s.catalog.rolledBackFor id (Failure.ofBackend b)
              (toggle.rollBack s.catalog.shown.roster).2).epoch = s.catalog.epoch := rfl
          have := Move.rollBack (k := k) hs hi
          simpa [Traffic.land, Traffic.proceed, Await.page?, Await.quest?, h, he,
            Progress.errands] using this
    | order =>
      cases reply with
      | ok _ =>
        simp only [Traffic.land, Await.page?, Option.map_none, Option.toList_none,
          List.append_nil]
        exact Move.reorder (k := k) hs rfl
      | error b =>
        have := Move.drop (k := k) hs rfl nofun
        simpa [Traffic.land, Traffic.proceed, Await.page?, Await.quest?, Catalog.resume,
          Catalog.landOrder, Progress.errands] using this
    | receipt =>
      have := Move.drop (k := k) hs rfl nofun
      simpa [Traffic.land, Traffic.proceed, Await.page?, Await.quest?, Catalog.resume,
        Progress.errands] using this

theorem Step.move {k : Conduct} {s t : Traffic} {a : Event} (h : Step k s a t) : Move k s a t := by
  cases h with
  | start op => exact Step.move_start k s op
  | answer hs ha hk => exact .answer hs ha hk
  | land hs ha hp => exact Step.move_land hs ha hp
  | wait span => exact .wait span
  | outdate => exact .outdate
  | evict hp => exact .evict hp

end Companions
