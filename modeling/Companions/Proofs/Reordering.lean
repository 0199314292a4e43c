import Companions.Proofs.Publications
import Companions.Proofs.SessionPages

/-! Pages asked for before the favorites had their new order. Once its success has arrived, none of
them is shown or kept any more, although replies that bring one may still be under way. -/
namespace Companions

variable {k : Conduct} {s t : Traffic} {a : Event} {e : Errand} {n : Nat} {p : Kept}

/-- The record of the page that an event brings. -/
def Event.receipt? (s : Traffic) : Event → Option Receipt
  | .land e => e.page?.map fun (page, taken) => ⟨e.request, page, s.now, e.ticket, taken⟩
  | _ => none

/-- A reply to a load or a search arrives before 2⁶⁴ newer tickets are issued. -/
def Event.InTime (s : Traffic) : Event → Prop
  | .land e => e.await.ticket?.isSome → s.tickets < e.ticket + 2 ^ 64
  | _ => True

/-- The reply to the newest ticket arrives with this page. -/
def Event.Brings (s : Traffic) (p : Kept) (a : Event) : Prop :=
  ∃ e taken, a = .land e ∧ e ∈ s.errands ∧ e.await.ticket? = some s.catalog.newest ∧
    e.page? = some (p.page, taken) ∧ p.storedAt = s.now

/-- One state leads to another by a step in which no reply is too late. -/
def Proceeds (k : Conduct) (s t : Traffic) : Prop := ∃ a, LateStep k s a t ∧ a.InTime s

/-- Every page in the cache was asked for with a newer ticket than `n`. -/
def KeptAfter (n : Nat) (s : Traffic) : Prop :=
  ∀ p ∈ s.catalog.cache.pages, ∃ r ∈ s.receipts, n < r.ticket ∧ r.page = p.page ∧
    r.time = p.storedAt

/-- With a step, no page that was asked for with the ticket `n` or an older one is shown or kept. -/
structure Renews (n : Nat) (s : Traffic) (a : Event) (t : Traffic) : Prop where
  dropped : ∀ e, a = .land e → e.await.ticket?.isSome → e.ticket ≤ n → t.catalog = s.catalog
  presents : Catalog.Presents (a.page? s) s.catalog t.catalog
  shown : ∀ page, a.page? s = some page → ∃ r ∈ t.receipts, n < r.ticket ∧ r.page = page
  stored : ∀ p ∈ t.catalog.cache.pages, p ∈ s.catalog.cache.pages ∨
    ∃ e taken, a = .land e ∧ n < e.ticket ∧ e.page? = some (p.page, taken)
  kept : KeptAfter n t

/-- The favorites are asked of the backend in their new order. -/
structure Errand.AsksFavorites (s : Traffic) (e : Errand) : Prop where
  request : e.request = .query { filter := .favorite, sort := .favorite } s.catalog.pageLimit
  await : e.await = .page s.catalog.newest { filter := .favorite, sort := .favorite }
  answer : e.answer = none
  ticket : e.ticket = s.tickets

theorem LateStep.receipts (h : LateStep k s a t) :
    t.receipts = s.receipts ++ (a.receipt? s).toList := by
  cases a with
  | land e =>
    obtain ⟨xs, ys, reply, taken, _, ha, rfl⟩ := h.landed
    simp [Traffic.land, Traffic.proceed, Event.receipt?, Errand.page?, ha, Function.comp_def]
  | _ =>
    cases h with
    | step h =>
      cases h
      exact (List.append_nil _).symm

theorem LateStep.receipts_subset (h : LateStep k s a t) : s.receipts ⊆ t.receipts := by
  rw [h.receipts]
  exact List.subset_append_left _ _

theorem LateStep.receives {page : Page} {taken : Finset Int64} (h : LateStep k s (.land e) t)
    (hp : e.page? = some (page, taken)) :
    (⟨e.request, page, s.now, e.ticket, taken⟩ : Receipt) ∈ t.receipts := by
  rw [h.receipts]
  simp [Event.receipt?, hp]

theorem Step.brings (h : Step k s a t) (hp : p ∈ t.catalog.cache.pages) :
    p ∈ s.catalog.cache.pages ∨ a.Brings s p := by
  refine (h.kept hp).imp_right ?_
  rintro ⟨e, d, taken, rfl, he, _, _, hw, hpage, _, htime⟩
  exact ⟨e, taken, rfl, he, by rw [hw]; rfl, hpage, htime⟩

theorem LateStep.brings (h : LateStep k s a t) (hp : p ∈ t.catalog.cache.pages) :
    p ∈ s.catalog.cache.pages ∨ a.Brings s p := by
  cases h with
  | step h => exact h.brings hp
  | @land xs ys e reply taken hs ha =>
    cases ht : e.await.ticket? with
    | none => exact (Step.land hs ha fun hw => by simp [ht] at hw : Step k s _ _).brings hp
    | some m =>
      have hl := (Catalog.resume_landed s.now ht reply s.catalog).1
      have hp : p ∈ (s.catalog.resume s.now e.await reply).1.cache.pages := hp
      generalize (s.catalog.resume s.now e.await reply).1 = c at hl hp
      cases hl with
      | stale => exact Or.inl hp
      | failed => exact Or.inl hp
      | @shown page cache counted hn hpage hc =>
        rcases hc with rfl | ⟨_, d, _, rfl⟩
        · exact Or.inl hp
        · rcases PageCache.mem_set hp with rfl | hp
          · exact Or.inr ⟨e, taken, rfl, by simp [hs], hn ▸ ht,
              by simp [Errand.page?, ha, hpage], rfl⟩
          · exact Or.inl hp

theorem receipts_lateStep (ht : Ticketed s) (hs : ∀ r ∈ s.receipts, r.ticket ≤ s.tickets)
    (h : LateStep k s a t) : ∀ r ∈ t.receipts, r.ticket ≤ t.tickets := by
  intro r hr
  refine le_trans ?_ h.tickets_le
  rw [h.receipts] at hr
  rcases List.mem_append.mp hr with hr | hr
  · exact hs r hr
  · cases a with
    | land e =>
      obtain ⟨_, _, rfl⟩ := Option.map_eq_some_iff.mp (Option.mem_toList.mp hr)
      exact (ht.le e h.land_catalog.1).1
    | _ => cases hr

theorem receipts_lateReachable (h : LateReachable k s) :
    ∀ r ∈ s.receipts, r.ticket ≤ s.tickets := by
  refine (h.invariant (P := fun s => Ticketed s ∧ ∀ r ∈ s.receipts, r.ticket ≤ s.tickets) ?_ ?_).2
  · intro s hs
    refine ⟨ticketed_initial hs, ?_⟩
    obtain ⟨_, _, _, _, _, _, rfl⟩ := hs
    simp
  · rintro s a t ⟨ht, hs⟩ h
    exact ⟨ticketed_lateStep ht h, receipts_lateStep ht hs h⟩

theorem Ticketed.ticket_in_time (ht : Ticketed s) (he : e ∈ s.errands)
    (hw : e.await.ticket? = some s.catalog.newest) (hi : (Event.land e).InTime s) :
    e.ticket = s.tickets :=
  ht.ticket_of_newest he (hi (by rw [hw]; rfl)) hw

theorem keptAfter_lateStep (ht : Ticketed s) (hn : n < s.tickets) (hs : KeptAfter n s)
    (h : LateStep k s a t) (hi : a.InTime s) : KeptAfter n t := by
  intro p hp
  rcases h.brings hp with hp | ⟨e, taken, rfl, he, hw, hpage, htime⟩
  · obtain ⟨r, hr, hrest⟩ := hs p hp
    exact ⟨r, h.receipts_subset hr, hrest⟩
  · have hnew := ht.ticket_in_time he hw hi
    exact ⟨_, h.receives hpage, hnew ▸ hn, rfl, htime.symm⟩

theorem keptAfter_of_proceeds (hr : LateReachable k s) (hn : n < s.tickets) (hs : KeptAfter n s)
    (h : Relation.ReflTransGen (Proceeds k) s t) :
    LateReachable k t ∧ n < t.tickets ∧ KeptAfter n t := by
  induction h with
  | refl => exact ⟨hr, hn, hs⟩
  | tail _ h ih =>
    obtain ⟨a, h, hi⟩ := h
    obtain ⟨hr, hn, hs⟩ := ih
    exact ⟨hr.step h, hn.trans_le h.tickets_le,
      keptAfter_lateStep (ticketed_lateReachable hr) hn hs h hi⟩

/-- A page is shown from the cache, or from the reply to the newest ticket. -/
theorem KeptAfter.page {page : Page} (ht : Ticketed s) (hn : n < s.tickets) (hs : KeptAfter n s)
    (h : LateStep k s a t) (hi : a.InTime s) (hp : a.page? s = some page) :
    ∃ r ∈ t.receipts, n < r.ticket ∧ r.page = page := by
  cases a with
  | start op =>
    obtain ⟨q, _, hq⟩ := Option.bind_eq_some_iff.mp hp
    split at hq
    · cases hq
    · obtain ⟨p, hm, _, hpage, _⟩ := PageCache.kept_of_get hq
      obtain ⟨r, hr, hlt, hrp, _⟩ := hs p hm
      exact ⟨r, h.receipts_subset hr, hlt, hrp.trans hpage⟩
  | land e =>
    simp only [Event.page?] at hp
    split at hp
    · rename_i hw
      obtain ⟨⟨_, taken⟩, hpage, rfl⟩ := Option.map_eq_some_iff.mp hp
      have hnew := ht.ticket_in_time h.land_catalog.1 hw hi
      exact ⟨_, h.receives hpage, hnew ▸ hn, rfl⟩
    · cases hp
  | _ => cases hp

/-- When the order has been accepted, the cache is emptied, and the favorites are loaded anew. -/
theorem LateStep.reordered (h : LateStep k s (.land e) t) (hw : e.await = .order)
    (hf : e.fault? = none) :
    ∃ xs ys, s.errands = xs ++ e :: ys ∧
      t = ({ s with errands := xs ++ ys } : Traffic).reordered.seek .reordered := by
  obtain ⟨xs, ys, reply, taken, hs, ha, rfl⟩ := h.landed
  refine ⟨xs, ys, hs, ?_⟩
  obtain ⟨r, w, answer, ticket, epoch, before⟩ := e
  simp only at hw
  subst hw
  cases reply with
  | ok x =>
    simp only [Traffic.land, Await.page?, Option.map_none, Option.toList_none, List.append_nil]
    rfl
  | error b =>
    simp only at ha
    subst ha
    cases hf

theorem reordered_asks (s : Traffic) :
    ∃ own, (s.reordered.seek .reordered).errands = s.errands ++ [own] ∧
      own.AsksFavorites (s.reordered.seek .reordered) ∧
      (s.reordered.seek .reordered).tickets = s.tickets + 1 ∧
      (s.reordered.seek .reordered).catalog.cache.pages = [] := by
  have h := Traffic.seek_sought (s := s.reordered) (q := .reordered) (Catalog.offers_of_load rfl)
  generalize s.reordered.seek .reordered = t at h
  cases h with
  | hit _ hg =>
    obtain ⟨p, hp, _⟩ := PageCache.kept_of_get hg
    cases hp
  | ask hc =>
    refine ⟨_, rfl, ⟨rfl, rfl, rfl, rfl⟩, rfl, List.eq_nil_iff_forall_not_mem.mpr fun p hp => ?_⟩
    cases PageCache.mem_of_eq_or_get hc hp

theorem KeptAfter.renews (hr : LateReachable k s) (hn : n < s.tickets) (hs : KeptAfter n s)
    (h : LateStep k s a t) (hi : a.InTime s) : Renews n s a t := by
  have ht := ticketed_lateReachable hr
  refine ⟨?_, h.presents, fun page => hs.page ht hn h hi, ?_, keptAfter_lateStep ht hn hs h hi⟩
  · rintro e rfl hw hle
    exact h.catalog_of_overtaken hr hw (hi hw) (hle.trans_lt hn)
  · refine fun p hp => (h.brings hp).imp_right ?_
    rintro ⟨e, taken, rfl, he, hw, hpage, _⟩
    exact ⟨e, taken, rfl, hn.trans_eq (ht.ticket_in_time he hw hi).symm, hpage⟩

/-- When a new order of the favorites has been accepted, nothing is kept, and the favorites are
asked of the backend with a ticket newer than that of any request so far, under way or answered.
From then on a reply to any of those changes nothing, and every page that is shown or kept, or comes
from the cache, was asked for with a newer ticket. -/
theorem pages_renewed_by_order (hr : LateReachable k s) (h : LateStep k s (.land e) t)
    (hw : e.await = .order) (hf : e.fault? = none) :
    (∀ x ∈ s.errands, x.ticket ≤ s.tickets) ∧ (∀ r ∈ s.receipts, r.ticket ≤ s.tickets) ∧
    (∃ xs ys own, s.errands = xs ++ e :: ys ∧ t.errands = xs ++ ys ++ [own] ∧
      own.AsksFavorites t ∧ s.tickets < t.tickets ∧ t.catalog.cache.pages = []) ∧
    ∀ u a v, Relation.ReflTransGen (Proceeds k) t u → LateStep k u a v → a.InTime u →
      Renews s.tickets u a v := by
  obtain ⟨xs, ys, hs, ht⟩ := h.reordered hw hf
  obtain ⟨own, hasks, hown, hlt, hnil⟩ := reordered_asks { s with errands := xs ++ ys }
  rw [← ht] at hasks hown hlt hnil
  have hlt : s.tickets < t.tickets := hlt ▸ Nat.lt_succ_self s.tickets
  refine ⟨fun x hx => ((ticketed_lateReachable hr).le x hx).1, receipts_lateReachable hr,
    ⟨xs, ys, own, hs, hasks, hown, hlt, hnil⟩, fun u a v hu h' hi => ?_⟩
  -- The emptied cache keeps nothing older, and the own load's ticket makes all earlier ones old.
  have hnew : KeptAfter s.tickets t := by
    intro p hp
    rw [hnil] at hp
    cases hp
  obtain ⟨hr, hn, hs⟩ := keptAfter_of_proceeds (hr.step h) hlt hnew hu
  exact hs.renews hr hn h' hi

/-- A load is under way while the favorites get their new order, and its page comes after that. -/
theorem pages_renewed_by_order_late :
    ∃ s e t u e' v, LateReachable (fun _ _ _ _ => True) s ∧
      LateStep (fun _ _ _ _ => True) s (.land e) t ∧ e.await = .order ∧ e.fault? = none ∧
      Relation.ReflTransGen (Proceeds fun _ _ _ _ => True) t u ∧
      LateStep (fun _ _ _ _ => True) u (.land e') v ∧ e'.await.ticket?.isSome ∧
      e'.ticket ≤ s.tickets ∧ v.receipts.length = 1 ∧ v.catalog = u.catalog := by
  have h := (LateReachable.fresh (fun _ _ _ _ => True) ∅).step (.step (.start _ (.load {})))
  have h := h.step (.step (.start _ (.reorder [])))
  have h := h.step (.step (@Step.answer _ _ [_] [] _ (.ok ()) ∅ rfl rfl trivial))
  refine ⟨_, _, _, _, _, _, h, @LateStep.land _ _ [_] [] _ _ _ rfl rfl, rfl, rfl,
    .single ⟨_, .step (@Step.answer _ _ [] [_] _
      (.ok (⟨[{ id := 1, name := "Ann" }], 1, 0, 0⟩ : Page)) ∅ rfl rfl trivial), trivial⟩,
    @LateStep.land _ _ [] [_] _ _ _ rfl rfl, rfl, by decide, rfl, ?_⟩
  exact ((pages_renewed_by_order h (@LateStep.land _ _ [_] [] _ _ _ rfl rfl) rfl rfl).2.2.2 _ _ _
    (.single ⟨_, .step (@Step.answer _ _ [] [_] _ _ ∅ rfl rfl trivial), trivial⟩)
    (@LateStep.land _ _ [] [_] _ _ _ rfl rfl) fun _ => by decide).dropped _ rfl rfl (by decide)

end Companions
