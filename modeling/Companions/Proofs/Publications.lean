import Companions.Proofs.Provenance
import Companions.Proofs.ShownFailure
import Companions.Proofs.SingleWriter

/-! What is sent to whoever watches the list. After each section of an operation it is what is on
show, and its number has grown by one just if the section has put another page in place of the
list. -/
namespace Companions

variable {k : Conduct} {s t : Traffic} {a : Event} {e : Errand} {c d : Catalog} {now : Nanos}

/-- The page that the cache has for an operation, which is shown at once. -/
def Operation.stored? (now : Nanos) (c : Catalog) (op : Operation) : Option Page :=
  (op.quest? c).bind fun q => if q.isSearch then none else (c.cache.get now q.view).1

/-- The page that an event puts in place of the list: one that the cache has, or the one that
answers the newest ticket. -/
def Event.page? (s : Traffic) : Event → Option Page
  | .start op => op.stored? s.now s.catalog
  | .land e => if e.await.ticket? = some s.catalog.newest then e.page?.map (·.1) else none
  | .answer _ | .wait _ | .outdate | .evict _ => none

namespace Catalog

/-- The list on show, but for its flags, becomes that of the page if there is one. Every other list
stays, under its number; and what is on show changes only if it is sent. -/
structure Presents (page? : Option Page) (c d : Catalog) : Prop where
  companions : d.shown.companions.map Companion.unflagged =
    ((page?.map (·.companions)).getD c.shown.companions).map Companion.unflagged
  generation : d.shown.generation = if page?.isSome then c.shown.generation + 1
    else c.shown.generation
  sent : d.publications = c.publications ∧ d.shown = c.shown ∨
    d.publications = c.publications + 1

theorem Presents.refl (c : Catalog) : Presents none c c := ⟨rfl, rfl, Or.inl ⟨rfl, rfl⟩⟩

theorem presents_display (page : Page) (counted : Bool)
    (hg : d.shown.generation = c.shown.generation) (hp : d.publications = c.publications) :
    Presents (some page) c (d.display page counted).publish :=
  ⟨map_display page counted, congrArg (· + 1) hg, Or.inr (congrArg (· + 1) hp)⟩

theorem presents_beginLoad (now : Nanos) (view : Descriptor) (c : Catalog) :
    Presents (c.cache.get now view).1 c (c.beginLoad now view).1 := by
  cases hg : c.cache.get now view with
  | mk found cache =>
    cases found with
    | some page =>
      simp only [beginLoad, issue, hg]
      exact presents_display page true rfl rfl
    | none =>
      simp only [beginLoad, issue, hg]
      exact ⟨rfl, rfl, Or.inr rfl⟩

theorem presents_start (now : Nanos) (op : Operation) (c : Catalog) :
    Presents (op.stored? now c) c (c.start now op).1 := by
  cases hq : op.quest? c with
  | some q =>
    rw [(start_of_quest? now hq).2, Operation.stored?, hq, Option.bind_some, seek]
    split
    · exact ⟨rfl, rfl, Or.inr rfl⟩
    · -- The filter to go back to is not on show.
      have h := presents_beginLoad now q.view { c with beforeScene := op.wayBack c }
      exact ⟨h.companions, h.generation, h.sent⟩
  | none =>
    rw [Operation.stored?, hq, Option.bind_none]
    rcases start_of_quest?_none now hq with ⟨id, rfl⟩ | ⟨r, w, hs, _⟩
    · rcases beginToggle_cases id c with ⟨out, hs⟩ | ⟨b, _, _, hs⟩
      · rw [start, hs]
        exact .refl c
      · rw [start, hs]
        exact ⟨Roster.map_mark _ fun _ _ => rfl, rfl, Or.inr rfl⟩
    · rw [hs]
      exact .refl c

theorem presents_landed {n : UInt64} {w : Await} {reply : w.Reply} (h : Landed now n w reply c d) :
    Presents (if n = c.newest then w.page? reply else none) c d := by
  cases h with
  | stale hn =>
    rw [if_neg hn]
    exact .refl c
  | failed hn hp =>
    rw [if_pos hn, hp]
    exact ⟨rfl, rfl, Or.inr rfl⟩
  | shown hn hp =>
    rw [if_pos hn, hp]
    exact presents_display _ _ rfl rfl

theorem presents_settleToggle (id : Int64) (reply : Except BackendError (Option Favorite))
    (c : Catalog) : Presents none c (c.settleToggle id reply).1 := by
  cases ht : c.pendingFor? id with
  | none =>
    simp only [settleToggle, ht]
    exact .refl c
  | some toggle =>
    cases reply with
    | ok f =>
      rw [settleToggle_ok ht]
      exact ⟨Toggle.map_confirm _ _, rfl, Or.inr rfl⟩
    | error b =>
      rw [settleToggle_error ht]
      exact ⟨Toggle.map_rollBack _, rfl, Or.inr rfl⟩

/-- With a new order, the cache has no page for the favorites. -/
theorem presents_landOrder (now : Nanos) (reply : Except BackendError Unit) (c : Catalog) :
    Presents none c (c.landOrder now reply).1 := by
  cases reply with
  | error b => exact .refl c
  | ok _ => exact ⟨rfl, rfl, Or.inr rfl⟩

theorem presents_resume (now : Nanos) (w : Await) (reply : w.Reply) (c : Catalog) :
    Presents (if w.ticket? = some c.newest then w.page? reply else none) c
      (c.resume now w reply).1 := by
  cases w with
  | page n view =>
    have h := presents_landed (landPage_landed now n view reply c)
    simpa only [Await.ticket?, Option.some.injEq, resume] using h
  | found n =>
    have h := presents_landed (landSearch_landed now n reply c)
    simpa only [Await.ticket?, Option.some.injEq, resume] using h
  | favorite id => exact presents_settleToggle id reply c
  | order => exact presents_landOrder now reply c
  | receipt => exact .refl c

end Catalog

theorem Errand.map_page? {reply : e.await.Reply} {taken : Finset Int64}
    (h : e.answer = some (reply, taken)) : e.page?.map (·.1) = e.await.page? reply := by
  simp [page?, h, Function.comp_def]

theorem LateStep.presents (h : LateStep k s a t) :
    Catalog.Presents (a.page? s) s.catalog t.catalog := by
  cases a with
  | land e =>
    obtain ⟨_, reply, taken, ha, hc⟩ := h.land_catalog
    rw [hc, Event.page?, Errand.map_page? ha]
    exact Catalog.presents_resume s.now e.await reply s.catalog
  | start op =>
    cases h with
    | step h =>
      cases h
      exact Catalog.presents_start s.now op s.catalog
  | _ =>
    cases h with
    | step h =>
      cases h
      exact ⟨rfl, rfl, Or.inl ⟨rfl, rfl⟩⟩

/-- After each section of an operation, whoever watches has been sent what is on show. If the
section has put a page in place of the list, then that is the page's list under the next number; if
it has not, it is the list from before under its number, flags aside. -/
theorem shown_list_published (hr : LateReachable k s) (h : LateStep k s a t) :
    t.catalog.published = t.catalog.shown ∧
      Catalog.Presents (a.page? s) s.catalog t.catalog :=
  ⟨announced_lateReachable (hr.step h), h.presents⟩

/-- The second time, the list comes from the cache. -/
theorem shown_list_published_kept :
    ∃ s a t, LateReachable (fun _ _ _ _ => True) s ∧ LateStep (fun _ _ _ _ => True) s a t ∧
      (a.page? s).isSome ∧ t.catalog.published = t.catalog.shown ∧
      Catalog.Presents (a.page? s) s.catalog t.catalog := by
  have h := (LateReachable.fresh (fun _ _ _ _ => True) ∅).step (.step (.start _ (.load {})))
  have h := h.step (.step (@Step.answer _ _ [] [] _
    (.ok (⟨[{ id := 1, name := "Ann" }], 1, 0, 0⟩ : Page)) ∅ rfl rfl trivial))
  have h := h.step (@LateStep.land _ _ [] [] _ _ _ rfl rfl)
  exact ⟨_, .start (.load {}), _, h, .step (.start _ _), by decide +kernel,
    shown_list_published h (.step (.start _ _))⟩

end Companions
