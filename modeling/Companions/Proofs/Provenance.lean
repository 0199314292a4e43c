import Companions.Proofs.CacheKey
import Companions.Proofs.Tickets

/-! Where the list on show comes from. After a success it is a page that the backend gave to just
the request of the newest ticket, or to an equal one a short time before. -/
namespace Companions

variable {k : Conduct} {s t : Traffic} {a : Event} {e : Errand} {q : Quest} {r : Receipt}
  {c d : Catalog} {xs ys : List Errand} {roster : Roster} {id : Int64}

/-- The list on show is that of a page received, but for its favorite flags. -/
structure ShownFrom (r : Receipt) (s : Traffic) : Prop where
  arrived : r ∈ s.receipts
  request : r.request = s.quest.request s.catalog.pageLimit s.catalog.searchLimit
  companions : s.catalog.shown.companions.map Companion.unflagged =
    r.page.companions.map Companion.unflagged
  total : s.catalog.shown.total = r.page.total
  /-- It answers the newest ticket itself, or was still good when the ticket was issued. -/
  fresh : r.ticket = s.tickets ∨
    s.quest.isSearch = false ∧ r.time ≤ s.questTime ∧
      s.questTime - r.time < s.catalog.cache.ttl

/-- Another list on show has the same companions, but for their flags, and no page more is kept. -/
structure Catalog.Relists (c d : Catalog) : Prop where
  descriptor : d.shown.descriptor = c.shown.descriptor
  phase : d.shown.phase = .success → c.shown.phase = .success
  companions : d.shown.companions.map Companion.unflagged =
    c.shown.companions.map Companion.unflagged
  total : d.shown.total = c.shown.total
  kept : ∀ k ∈ d.cache.pages, k ∈ c.cache.pages
  ttl : d.cache.ttl = c.cache.ttl
  pageLimit : d.pageLimit = c.pageLimit
  searchLimit : d.searchLimit = c.searchLimit

structure Sourced (s : Traffic) : Prop where
  view : s.catalog.shown.descriptor = s.quest.view
  asked : ∀ e ∈ s.errands, e.HasTicket → e.ticket = s.tickets →
    e.request = s.quest.request s.catalog.pageLimit s.catalog.searchLimit
  page : ∀ e ∈ s.errands, ∀ n d, e.await = .page n d → e.request = .query d s.catalog.pageLimit
  kept : ∀ k ∈ s.catalog.cache.pages, ∃ r ∈ s.receipts, ∃ d : Descriptor, k.key = d.cacheKey ∧
    r.request = .query d s.catalog.pageLimit ∧ r.page = k.page ∧ r.time = k.storedAt
  past : ∀ r ∈ s.receipts, r.time ≤ s.now
  success : s.catalog.shown.phase = .success → ∃ r, ShownFrom r s

namespace Catalog.Relists

theorem refl (c : Catalog) : c.Relists c := ⟨rfl, id, rfl, rfl, fun _ => id, rfl, rfl, rfl⟩

theorem ofPages {pages : List Kept} (c : Catalog) (f : Filter) (epoch : UInt64)
    (hk : ∀ k ∈ pages, k ∈ c.cache.pages) :
    c.Relists { c with cache := { c.cache with pages }, epoch, beforeScene := f } :=
  ⟨rfl, fun h => h, rfl, rfl, hk, rfl, rfl, rfl⟩

theorem toggled (c : Catalog) (id : Int64) (b : Bool) : c.Relists (c.toggled id b) :=
  ⟨rfl, fun h => h, Roster.map_mark _ fun _ _ => rfl, rfl, nofun, rfl, rfl, rfl⟩

theorem confirmedWith (h : roster.companions.map Companion.unflagged =
      c.shown.companions.map Companion.unflagged) (id : Int64) (v : Bool) :
    c.Relists (c.confirmedWith id v roster) :=
  ⟨rfl, fun h => h, h, rfl, fun _ h => h, rfl, rfl, rfl⟩

theorem rolledBackFor (h : roster.companions.map Companion.unflagged =
      c.shown.companions.map Companion.unflagged) (id : Int64) (f : Failure) :
    c.Relists (c.rolledBackFor id f roster) :=
  ⟨rfl, fun h => h, h, rfl, fun _ h => h, rfl, rfl, rfl⟩

end Catalog.Relists

theorem Toggle.map_confirm (t : Toggle) (v : Bool) :
    (t.confirm v roster).2.companions.map Companion.unflagged =
      roster.companions.map Companion.unflagged := by
  unfold Toggle.confirm
  split
  · exact Roster.map_mark _ fun _ _ => rfl
  · rfl

theorem Toggle.map_rollBack (t : Toggle) :
    (t.rollBack roster).2.companions.map Companion.unflagged =
      roster.companions.map Companion.unflagged := by
  unfold Toggle.rollBack
  split
  · exact Roster.map_mark _ fun _ _ => rfl
  · rfl

theorem Catalog.map_display (p : Page) (counted : Bool) :
    (c.display p counted).shown.companions.map Companion.unflagged =
      p.companions.map Companion.unflagged := by
  simp only [display, Snapshot.companions, reconcile_eq_marks]
  exact Roster.map_marks _ fun _ _ => rfl

theorem ShownFrom.relists (h : ShownFrom r s) (hc : s.catalog.Relists t.catalog)
    (hq : t.quest = s.quest) (ht : t.questTime = s.questTime) (hn : t.tickets = s.tickets)
    (hr : r ∈ t.receipts) : ShownFrom r t := by
  refine ⟨hr, ?_, hc.companions.trans h.companions, hc.total.trans h.total, ?_⟩
  · rw [hq, hc.pageLimit, hc.searchLimit]
    exact h.request
  · rw [hq, ht, hn, hc.ttl]
    exact h.fresh

/-- A page from the cache is shown. -/
theorem ShownFrom.of_hit {k : Kept} {view : Descriptor} (hq : q.isSearch = false)
    (hr : r ∈ s.receipts) (hpast : r.time ≤ s.now) (hkey : k.key = q.view.cacheKey)
    (hd : k.key = view.cacheKey) (hreq : r.request = .query view s.catalog.pageLimit)
    (hpage : r.page = k.page) (htime : r.time = k.storedAt)
    (hage : s.now - k.storedAt < s.catalog.cache.ttl) :
    ShownFrom r
      { s with
        catalog := ({ s.catalog.issueFor q.view with
          cache := (s.catalog.cache.get s.now q.view).2 }.display k.page true).publish
        tickets := s.tickets + 1
        quest := q
        questTime := s.now } := by
  -- The page was stored under the key of this very view.
  have hview : view = q.view := Descriptor.cacheKey_injective (hd.symm.trans hkey)
  refine ⟨hr, ?_, ?_, congrArg Page.total hpage.symm, Or.inr ⟨hq, hpast, ?_⟩⟩
  · rw [hreq, hview]
    simp only [Quest.request, hq]
    rfl
  · rw [hpage]
    exact Catalog.map_display _ _
  · rw [htime]
    exact hage.trans_eq PageCache.ttl_get.symm

/-- Steps that take no ticket and show no other companions. -/
theorem Sourced.relists (h : Sourced s) (hc : s.catalog.Relists t.catalog)
    (hq : t.quest = s.quest) (ht : t.questTime = s.questTime) (hn : t.tickets = s.tickets)
    (hr : ∀ r ∈ s.receipts, r ∈ t.receipts) (hp : ∀ r ∈ t.receipts, r.time ≤ t.now)
    (he : ∀ e ∈ t.errands, e.await.ticket? = none ∨ ∃ e' ∈ s.errands,
      e.request = e'.request ∧ e.await = e'.await ∧ e.ticket = e'.ticket) : Sourced t := by
  refine ⟨?_, ?_, ?_, ?_, hp, ?_⟩
  · rw [hc.descriptor, hq, h.view]
  · intro e hm hw hx
    rcases he e hm with hnone | ⟨e', hm', h1, h2, h3⟩
    · simp [Errand.HasTicket, hnone] at hw
    · rw [hq, hc.pageLimit, hc.searchLimit, h1]
      refine h.asked e' hm' ?_ (by rw [← h3, hx, hn])
      unfold Errand.HasTicket at hw ⊢
      rwa [← h2]
  · intro e hm n d hw
    rcases he e hm with hnone | ⟨e', hm', h1, h2, _⟩
    · simp [hw, Await.ticket?] at hnone
    · rw [hc.pageLimit, h1]
      exact h.page e' hm' n d (h2 ▸ hw)
  · intro k hk
    obtain ⟨r, hm, d, hd⟩ := h.kept k (hc.kept k hk)
    rw [hc.pageLimit]
    exact ⟨r, hr r hm, d, hd⟩
  · intro hs
    obtain ⟨r, hr'⟩ := h.success (hc.phase hs)
    exact ⟨r, hr'.relists hc hq ht hn (hr r hr'.arrived)⟩

theorem Sourced.still {now : Nanos} (h : Sourced s) (hc : s.catalog.Relists c)
    (hn : s.now ≤ now) (epochs : Nat) : Sourced { s with catalog := c, now, epochs } :=
  h.relists hc rfl rfl rfl (fun _ hm => hm) (fun r hr => (h.past r hr).trans hn)
    fun e he => Or.inr ⟨e, he, rfl, rfl, rfl⟩

theorem Sourced.drop (h : Sourced s) (hs : s.errands = xs ++ e :: ys)
    (hc : s.catalog.Relists c) (epochs : Nat) :
    Sourced { s with catalog := c, epochs, errands := xs ++ ys } := by
  exact h.relists hc rfl rfl rfl (fun _ hm => hm) h.past fun x hx =>
    Or.inr ⟨x, mem_of_drop hs x hx, rfl, rfl, rfl⟩

theorem Sourced.send (h : Sourced s) (hc : s.catalog.Relists c) (epochs : Nat)
    (he : e.await.ticket? = none) :
    Sourced { s with catalog := c, epochs, errands := s.errands ++ [e] } := by
  refine h.relists hc rfl rfl rfl (fun _ hm => hm) h.past fun e' he' => ?_
  rcases List.mem_append.mp he' with he' | he'
  · exact Or.inr ⟨e', he', rfl, rfl, rfl⟩
  · rw [List.mem_singleton.mp he']
    exact Or.inl he

theorem Sourced.seek (h : Sourced s) (ht : Ticketed s) (ho : s.catalog.Offers q) :
    Sourced (s.seek q) := by
  have hold : ∀ e ∈ s.errands, e.ticket ≠ s.tickets + 1 := fun e hm => ht.ticket_ne hm
  have hs := Traffic.seek_sought ho
  generalize s.seek q = t at hs
  cases hs with
  | @hit page hq hg =>
    refine ⟨rfl, fun e he _ hx => (hold e he hx).elim, h.page, ?_, h.past, fun _ => ?_⟩
    · exact fun k hk => h.kept k (PageCache.mem_of_mem_get hk)
    · obtain ⟨k, hk, hkey, rfl, hage⟩ := PageCache.kept_of_get hg
      obtain ⟨r, hm, d, hd, hreq, hpage, htime⟩ := h.kept k hk
      exact ⟨r, .of_hit hq hm (h.past r hm) hkey hd hreq hpage htime hage⟩
  | ask hc =>
    refine ⟨rfl, ?_, ?_, ?_, h.past, nofun⟩
    · intro e he _ hx
      rcases List.mem_append.mp he with he | he
      · exact (hold e he hx).elim
      · rw [List.mem_singleton.mp he]
        rfl
    · intro e he n d hw
      rcases List.mem_append.mp he with he | he
      · exact h.page e he n d hw
      · rw [List.mem_singleton.mp he] at hw ⊢
        simp only [Catalog.awaitFor, Quest.request] at hw ⊢
        split at hw
        · cases hw
        · rename_i hn
          cases hw
          rw [if_neg hn]
          rfl
    · exact fun k hk => h.kept k (PageCache.mem_of_eq_or_get hc hk)

/-- A reply arrives. What it brings is received, and shown if it answers the newest ticket. -/
theorem Sourced.land {reply : e.await.Reply} {taken : Finset Int64} {n : UInt64} (h : Sourced s)
    (ht : Ticketed s) (hx : s.errands = xs ++ e :: ys) (hp : s.Prompt e)
    (hw : e.await.ticket? = some n) (hl : Catalog.Landed s.now n e.await reply s.catalog c) :
    Sourced { s with
      catalog := c
      errands := xs ++ ys
      receipts := s.receipts ++ ((e.await.page? reply).map fun page =>
        ⟨e.request, page, s.now, e.ticket, taken⟩).toList } := by
  have hmem : e ∈ s.errands := by simp [hx]
  have hpast : ∀ r ∈ s.receipts ++ ((e.await.page? reply).map fun page =>
      (⟨e.request, page, s.now, e.ticket, taken⟩ : Receipt)).toList, r.time ≤ s.now := by
    intro r hr
    rcases List.mem_append.mp hr with hr | hr
    · exact h.past r hr
    · obtain ⟨page, _, rfl⟩ := Option.map_eq_some_iff.mp (Option.mem_toList.mp hr)
      exact le_rfl
  have hd := (h.drop hx (.refl _) s.epochs).relists (t := { s with
      errands := xs ++ ys
      receipts := s.receipts ++ ((e.await.page? reply).map fun page =>
        (⟨e.request, page, s.now, e.ticket, taken⟩ : Receipt)).toList }) (.refl _) rfl rfl rfl
    (fun r hr => List.mem_append_left _ hr) hpast fun e he => Or.inr ⟨e, he, rfl, rfl, rfl⟩
  cases hl with
  | stale => exact hd
  | failed =>
    refine hd.relists ⟨rfl, nofun, rfl, rfl, fun _ h => h, rfl, rfl, rfl⟩ rfl rfl rfl
      (fun _ hr => hr) hpast fun e he => Or.inr ⟨e, he, rfl, rfl, rfl⟩
  | @shown page cache counted hn hpage hcache =>
    have hreq := h.asked e hmem (by simp [Errand.HasTicket, hw]) (ht.ticket_eq hmem hp (hn ▸ hw))
    have hin : (⟨e.request, page, s.now, e.ticket, taken⟩ : Receipt) ∈
        s.receipts ++ ((e.await.page? reply).map fun page =>
          (⟨e.request, page, s.now, e.ticket, taken⟩ : Receipt)).toList := by
      simp [hpage]
    refine ⟨hd.view, hd.asked, hd.page, ?_, hpast, fun _ => ?_⟩
    · intro k hk
      rcases hcache with rfl | ⟨_, d, hd', rfl⟩
      · exact hd.kept k hk
      · rcases PageCache.mem_set hk with rfl | hk
        · exact ⟨_, hin, d, rfl, h.page e hmem n d hd', rfl, rfl⟩
        · exact hd.kept k hk
    · exact ⟨_, hin, hreq, Catalog.map_display _ _, rfl, Or.inl (ht.ticket_eq hmem hp (hn ▸ hw))⟩

theorem sourced_initial (h : s.Initial) : Sourced s := by
  obtain ⟨_, _, _, _, _, _, rfl⟩ := h
  exact ⟨rfl, by simp, by simp, nofun, by simp, nofun⟩

theorem sourced_step (ht : Ticketed s) (hs : Sourced s) (h : Step k s a t) : Sourced t := by
  cases h.move with
  | seek f hq ho =>
    have hl : Sourced (s.leaving f) :=
      hs.still (.ofPages s.catalog f s.catalog.epoch fun _ hk => hk) le_rfl s.epochs
    exact hl.seek { ht with } ho
  | refuse id => exact hs
  | toggle hp hb => exact hs.send (.toggled _ _ _) _ rfl
  | send op r hw hf => exact hs.send (.refl _) _ hw
  | @answer xs ys e₀ _ _ hx ha hk =>
    refine hs.relists (.refl _) rfl rfl rfl (fun _ hm => hm) hs.past fun e he => Or.inr ?_
    rcases mem_of_replace hx e he with he | rfl
    · exact ⟨e, he, rfl, rfl, rfl⟩
    · exact ⟨e₀, by simp [hx], rfl, rfl, rfl⟩
  | land hx ha hp hw hl => exact hs.land ht hx hp hw hl
  | confirm hx hp => exact hs.drop hx (.confirmedWith (Toggle.map_confirm _ _) _ _) _
  | rollBack hx hp => exact hs.drop hx (.rolledBackFor (Toggle.map_rollBack _) _ _) _
  | @reorder xs ys e hx hw =>
    have htd := ht.drop hx
    have hd := hs.drop hx
      (.ofPages s.catalog .favorite s.catalog.epoch (List.forall_mem_nil _)) s.epochs
    exact Sourced.seek hd { htd with } (Catalog.offers_of_load rfl)
  | drop hx hw hf => exact hs.drop hx (.refl _) _
  | wait span => exact hs.still (.refl _) (Nat.le_add_right _ _) _
  | outdate =>
    exact hs.still (.ofPages s.catalog s.catalog.beforeScene (s.catalog.epoch + 1)
      (List.forall_mem_nil _)) le_rfl (s.epochs + 1)
  | evict hp =>
    exact hs.still (.ofPages s.catalog s.catalog.beforeScene s.catalog.epoch
      fun _ hk => hp.subset hk) le_rfl s.epochs

theorem sourced_reachable (h : Reachable k s) : Sourced s := by
  refine (h.invariant (P := fun s => Ticketed s ∧ Sourced s)
    (fun s hs => ⟨ticketed_initial hs, sourced_initial hs⟩) ?_).2
  rintro s a t ⟨ht, hs⟩ h
  exact ⟨ticketed_step ht h, sourced_step ht hs h⟩

/-- A list shown as loaded belongs to the view shown with it, which is that of the newest ticket. -/
theorem shown_list_received (h : Reachable k s) (hs : s.catalog.shown.phase = .success) :
    s.catalog.shown.descriptor = s.quest.view ∧ ∃ r, ShownFrom r s :=
  ⟨(sourced_reachable h).view, (sourced_reachable h).success hs⟩

/-- The second load of a view takes its page from the cache. -/
theorem shown_list_received_kept :
    ∃ s, Reachable (fun _ _ _ _ => True) s ∧
      s.catalog.shown.companions.map (·.id) = [1] ∧ s.tickets = 2 ∧ s.receipts.length = 1 ∧
      s.catalog.shown.phase = .success ∧
      s.catalog.shown.descriptor = s.quest.view ∧ ∃ r, ShownFrom r s := by
  have h := (Reachable.fresh (fun _ _ _ _ => True) ∅).step (.start _ (.load {}))
  have h := h.step (@Step.answer _ _ [] [] _
    (.ok (⟨[{ id := 1, name := "Ann" }], 1, 0, 0⟩ : Page)) ∅ rfl rfl trivial)
  have h := h.step (@Step.land _ _ [] [] _ _ _ rfl rfl fun _ => ⟨by decide, by decide⟩)
  have h := h.step (.wait _ (Nanos.ofSeconds 1))
  have h := h.step (.start _ (.load {}))
  exact ⟨_, h, by decide +kernel, rfl, rfl, rfl, shown_list_received h rfl⟩

end Companions
