import Companions.Proofs.Provenance
import Companions.Proofs.SessionPages

/-! What a change of the visiting session leads to. No call of the follower is lost, so that a reload
begins after each change; and however many changes come during one reload, a single one follows. -/
namespace Companions

section Traffic
variable {k : Conduct} {s t : Traffic} {a : Event} {as : List Event} {e : Errand} {p : Kept}
  {c : Catalog} {n m : Nat} {q : Quest} {r : Receipt} {pageLimit : UInt32} {xs ys : List Errand}

/-- A page in the cache is one received. -/
structure Receipt.Backs (r : Receipt) (pageLimit : UInt32) (p : Kept) : Prop where
  request : ∃ d : Descriptor, p.key = d.cacheKey ∧ r.request = .query d pageLimit
  page : r.page = p.page
  time : r.time = p.storedAt

/-- When `n` tickets had been issued, the epoch `m` began, and nothing was kept from before. What is
kept or shown as loaded since then answers a later ticket. -/
structure Renewed (n m : Nat) (s : Traffic) : Prop where
  tickets : n ≤ s.tickets
  epochs : m ≤ s.epochs
  old : ∀ e ∈ s.errands, e.HasTicket → e.ticket ≤ n → e.epoch < m
  kept : ∀ p ∈ s.catalog.cache.pages,
    ∃ r ∈ s.receipts, r.Backs s.catalog.pageLimit p ∧ n < r.ticket
  shown : n < s.tickets → s.catalog.shown.phase = .success → ∃ r, ShownFrom r s ∧ n < r.ticket

/-- Steps that take no ticket and show no other companions. -/
theorem Renewed.relists (h : Renewed n m s) (hc : s.catalog.Relists t.catalog)
    (hq : t.quest = s.quest) (ht : t.questTime = s.questTime) (hn : t.tickets = s.tickets)
    (hm : s.epochs ≤ t.epochs) (hr : ∀ r ∈ s.receipts, r ∈ t.receipts)
    (he : ∀ e ∈ t.errands, e.await.ticket? = none ∨ ∃ e' ∈ s.errands,
      e.await = e'.await ∧ e.ticket = e'.ticket ∧ e.epoch = e'.epoch) : Renewed n m t := by
  refine ⟨hn ▸ h.tickets, h.epochs.trans hm, ?_, ?_, ?_⟩
  · intro e hin hw hx
    rcases he e hin with hnone | ⟨e', hin', h1, h2, h3⟩
    · simp [Errand.HasTicket, hnone] at hw
    · rw [h3]
      refine h.old e' hin' ?_ (h2 ▸ hx)
      unfold Errand.HasTicket at hw ⊢
      rwa [← h1]
  · intro p hp
    obtain ⟨r, hin, hb, hx⟩ := h.kept p (hc.kept p hp)
    rw [hc.pageLimit]
    exact ⟨r, hr r hin, hb, hx⟩
  · intro hx hs
    obtain ⟨r, hf, hx⟩ := h.shown (hn ▸ hx) (hc.phase hs)
    exact ⟨r, hf.relists hc hq ht hn (hr r hf.arrived), hx⟩

theorem Renewed.still {now : Nanos} {epochs : Nat} (h : Renewed n m s)
    (hc : s.catalog.Relists c) (hm : s.epochs ≤ epochs) :
    Renewed n m { s with catalog := c, now, epochs } :=
  h.relists hc rfl rfl rfl hm (fun _ hr => hr) fun e he => Or.inr ⟨e, he, rfl, rfl, rfl⟩

theorem Renewed.drop {epochs : Nat} (h : Renewed n m s) (hs : s.errands = xs ++ e :: ys)
    (hc : s.catalog.Relists c) (hm : s.epochs ≤ epochs) :
    Renewed n m { s with catalog := c, epochs, errands := xs ++ ys } :=
  h.relists hc rfl rfl rfl hm (fun _ hr => hr) fun x hx =>
    Or.inr ⟨x, mem_of_drop hs x hx, rfl, rfl, rfl⟩

theorem Renewed.send {epochs : Nat} (h : Renewed n m s) (hc : s.catalog.Relists c)
    (hm : s.epochs ≤ epochs) (he : e.await.ticket? = none) :
    Renewed n m { s with catalog := c, epochs, errands := s.errands ++ [e] } := by
  refine h.relists hc rfl rfl rfl hm (fun _ hr => hr) fun x hx => ?_
  rcases List.mem_append.mp hx with hx | hx
  · exact Or.inr ⟨x, hx, rfl, rfl, rfl⟩
  · rw [List.mem_singleton.mp hx]
    exact Or.inl he

theorem Renewed.seek (h : Renewed n m s) (hs : Sourced s) (ho : s.catalog.Offers q) :
    Renewed n m (s.seek q) := by
  have hle := h.tickets
  have hk := Traffic.seek_sought ho
  generalize s.seek q = t at hk
  cases hk with
  | @hit page hq hg =>
    refine ⟨Nat.le_succ_of_le hle, h.epochs, h.old, ?_, fun _ _ => ?_⟩
    · exact fun p hp => h.kept p (PageCache.mem_of_mem_get hp)
    · obtain ⟨p, hp, hkey, rfl, hage⟩ := PageCache.kept_of_get hg
      obtain ⟨r, hr, ⟨⟨d, hd, hreq⟩, hpage, htime⟩, hx⟩ := h.kept p hp
      exact ⟨r, .of_hit hq hr (hs.past r hr) hkey hd hreq hpage htime hage, hx⟩
  | ask hc =>
    refine ⟨Nat.le_succ_of_le hle, h.epochs, ?_, ?_, fun _ hx => by cases hx⟩
    · intro e he hw hx
      rcases List.mem_append.mp he with he | he
      · exact h.old e he hw hx
      · rw [List.mem_singleton.mp he] at hx
        simp only at hx
        omega
    · exact fun p hp => h.kept p (PageCache.mem_of_eq_or_get hc hp)

/-- A reply arrives. It is kept only if its epoch goes on, so that it is a later one. -/
theorem Renewed.land {reply : e.await.Reply} {taken : Finset Int64} {i : UInt64}
    (h : Renewed n m s) (hs : Sourced s) (ht : Ticketed s) (hx : s.errands = xs ++ e :: ys)
    (hp : s.Prompt e) (hw : e.await.ticket? = some i)
    (hl : Catalog.Landed s.now i e.await reply s.catalog c) :
    Renewed n m { s with
      catalog := c
      errands := xs ++ ys
      receipts := s.receipts ++ ((e.await.page? reply).map fun page =>
        ⟨e.request, page, s.now, e.ticket, taken⟩).toList } := by
  have hmem : e ∈ s.errands := by simp [hx]
  have hticket : e.HasTicket := by simp [Errand.HasTicket, hw]
  have hd := (h.drop hx (.refl _) le_rfl).relists (t := { s with
      errands := xs ++ ys
      receipts := s.receipts ++ ((e.await.page? reply).map fun page =>
        (⟨e.request, page, s.now, e.ticket, taken⟩ : Receipt)).toList }) (.refl _) rfl rfl rfl
    le_rfl (fun r hr => List.mem_append_left _ hr) fun e he => Or.inr ⟨e, he, rfl, rfl, rfl⟩
  cases hl with
  | stale => exact hd
  | failed =>
    exact hd.relists ⟨rfl, (fun h => by cases h), rfl, rfl, fun _ h => h, rfl, rfl, rfl⟩ rfl rfl
      rfl le_rfl (fun _ hr => hr) fun e he => Or.inr ⟨e, he, rfl, rfl, rfl⟩
  | @shown page cache counted hn hpage hcache =>
    have hnew : e.ticket = s.tickets := ht.ticket_eq hmem hp (hn ▸ hw)
    have hin : (⟨e.request, page, s.now, e.ticket, taken⟩ : Receipt) ∈
        s.receipts ++ ((e.await.page? reply).map fun page =>
          (⟨e.request, page, s.now, e.ticket, taken⟩ : Receipt)).toList := by
      simp [hpage]
    refine ⟨hd.tickets, hd.epochs, hd.old, ?_, fun hlt _ => ?_⟩
    · intro p hk
      rcases hcache with rfl | ⟨hc, d, hd', rfl⟩
      · exact hd.kept p hk
      · rcases PageCache.mem_set hk with rfl | hk
        · refine ⟨_, hin, ⟨⟨d, rfl, hs.page e hmem _ d hd'⟩, rfl, rfl⟩, ?_⟩
          have hepoch := ht.epoch_eq hmem hp hticket hnew hc
          have hold := h.old e hmem hticket
          have hm := h.epochs
          simp only
          omega
        · exact hd.kept p hk
    · have hreq := hs.asked e hmem hticket hnew
      exact ⟨_, ⟨hin, hreq, Catalog.map_display _ _, rfl, Or.inl hnew⟩, hnew.symm ▸ hlt⟩

theorem renewed_step (ht : Ticketed s) (hs : Sourced s) (h : Renewed n m s) (ha : Step k s a t) :
    Renewed n m t := by
  cases ha.move with
  | seek f hq ho =>
    have hl : Renewed n m (s.leaving f) :=
      h.still (.ofPages s.catalog f s.catalog.epoch fun _ hk => hk) le_rfl
    have hls : Sourced (s.leaving f) :=
      hs.still (.ofPages s.catalog f s.catalog.epoch fun _ hk => hk) le_rfl s.epochs
    exact hl.seek hls ho
  | refuse id => exact h
  | toggle hp hb => exact h.send (.toggled _ _ _) (Nat.le_succ _) rfl
  | send op r hw hf => exact h.send (.refl _) le_rfl hw
  | @answer xs ys e₀ _ _ hx ha hk =>
    refine h.relists (.refl _) rfl rfl rfl le_rfl (fun _ hr => hr) fun e he => Or.inr ?_
    rcases mem_of_replace hx e he with he | rfl
    · exact ⟨e, he, rfl, rfl, rfl⟩
    · exact ⟨e₀, by simp [hx], rfl, rfl, rfl⟩
  | land hx ha hp hw hl => exact h.land hs ht hx hp hw hl
  | confirm hx hp =>
    exact h.drop hx (.confirmedWith (Toggle.map_confirm _ _) _ _) (Nat.le_succ _)
  | rollBack hx hp => exact h.drop hx (.rolledBackFor (Toggle.map_rollBack _) _ _) le_rfl
  | @reorder xs ys e hx hw =>
    have hc := Catalog.Relists.ofPages s.catalog .favorite s.catalog.epoch (List.forall_mem_nil _)
    exact Renewed.seek (h.drop hx hc le_rfl) (hs.drop hx hc s.epochs) (Catalog.offers_of_load rfl)
  | drop hx hw hf => exact h.drop hx (.refl _) le_rfl
  | wait span => exact h.still (.refl _) le_rfl
  | outdate =>
    exact h.still (.ofPages s.catalog s.catalog.beforeScene (s.catalog.epoch + 1)
      (List.forall_mem_nil _)) (Nat.le_succ _)
  | evict hp =>
    exact h.still (.ofPages s.catalog s.catalog.beforeScene s.catalog.epoch
      fun _ hk => hp.subset hk) le_rfl

theorem renewed_run (hr : Reachable k s) (h : Renewed n m s) (ha : Run k s as t) :
    Renewed n m t := by
  induction ha with
  | refl => exact h
  | step hs _ ih =>
    have ht : Ticketed _ := hr.invariant (fun _ => ticketed_initial) fun _ _ _ => ticketed_step
    exact ih (hr.step hs) (renewed_step ht (sourced_reachable hr) h hs)

/-- From a new epoch on, all that was kept before is gone. -/
theorem renewed_outdated (ht : Ticketed s) (hn : 0 < n) :
    Renewed s.tickets (s.epochs + n) (s.outdated n) := by
  obtain ⟨n, rfl⟩ := Nat.exists_eq_add_of_lt hn
  refine ⟨le_rfl, le_rfl, ?_, ?_, fun hlt => (lt_irrefl _ hlt).elim⟩
  · intro e he _ _
    have := (ht.le e he).2
    omega
  · intro p hp
    rw [Nat.zero_add, Visit.pages_outdated] at hp
    cases hp

end Traffic

namespace Happening

def begins : Happening → Bool
  | begin => true
  | _ => false

end Happening

namespace Visit

variable {k : Conduct} {s t u v w : Visit} {a : Happening} {as bs : List Happening} {n m : Nat}
  {e : Errand} {ticket : Nat}

/-- The follower's task waits, or is about to, and no call has come in. -/
def Idle (s : Visit) : Prop :=
  (s.follower.stage = .starting ∨ s.follower.stage = .resting) ∧ s.follower.again = false

/-- A call has come in for which no reload has begun. -/
def Summoned (s : Visit) : Prop :=
  s.follower.stage = .called ∨ s.follower.again = true ∨ s.reload = .due

theorem Idle.not_summoned (h : s.Idle) (hm : Manned s) : ¬s.Summoned := by
  obtain ⟨hstage, hagain⟩ := h
  have hi : s.reload = .idle := hm.idle.mpr (by rcases hstage with h | h <;> simp [h])
  rintro (hc | hc | hc)
  · rcases hstage with h | h <;> simp [h] at hc
  · simp [hagain] at hc
  · simp [hi] at hc

/-- A call once heard stays on record through further calls. -/
theorem called_iterate (n : Nat) (f : Follower) (h : f.stage = .called ∨ f.again = true ∨ 0 < n) :
    (Follower.call^[n] f).stage = .called ∨ (Follower.call^[n] f).again = true := by
  induction n generalizing f with
  | zero => simpa using h
  | succ n ih =>
    rw [Function.iterate_succ_apply]
    refine ih f.call ?_
    obtain ⟨stage, again⟩ := f
    cases stage <;> simp [Follower.call]

theorem summoned_rest (h : s.follower.again = true) : s.rest.Summoned := by
  simp [rest, Follower.finish, h, Summoned]

/-- A call stays on record until a reload begins. -/
theorem summoned_step (hr : Reachable k s) (h : s.Summoned) (hs : Step k s a t) :
    a = .begin ∨ t.Summoned := by
  have hm := manned_reachable hr
  cases hr.move hs with
  | traffic => exact Or.inr h
  | sign => exact Or.inr h
  | @change w n =>
    right
    rcases h with h | h | h
    · exact (called_iterate n s.follower (Or.inl h)).imp_right Or.inl
    · exact (called_iterate n s.follower (Or.inr (Or.inl h))).imp_right Or.inl
    · exact Or.inr (Or.inr h)
  | listen => exact Or.inr h
  | arrive hst =>
    have hi : s.reload = .idle := hm.idle.mpr (by simp [hst])
    refine Or.inr (summoned_rest ?_)
    rcases h with h | h | h
    · simp [hst] at h
    · exact h
    · simp [hi] at h
  | wake => exact Or.inr (Or.inr (Or.inr rfl))
  | hit => exact Or.inl rfl
  | ask => exact Or.inl rfl
  | finish hu =>
    have hst := hm.reloading (by simp [hu])
    refine Or.inr (summoned_rest ?_)
    rcases h with h | h | h
    · simp [hst] at h
    · exact h
    · simp [hu] at h

/-- After a call a reload begins, which takes a ticket, or the call is still on record. -/
theorem summoned_run (hr : Reachable k s) (h : s.Summoned) (hrun : Run k s as t) :
    s.traffic.tickets ≤ t.traffic.tickets ∧
      (t.Summoned ∨ .begin ∈ as ∧ s.traffic.tickets < t.traffic.tickets) := by
  refine hrun.invariant (P := fun as t => s.traffic.tickets ≤ t.traffic.tickets ∧
    (t.Summoned ∨ .begin ∈ as ∧ s.traffic.tickets < t.traffic.tickets)) hr ⟨le_rfl, Or.inl h⟩ ?_
  rintro as u a v hu ⟨hle, hcase⟩ hs
  obtain ⟨hmono, hbegin⟩ := (hu.move hs).tickets
  refine ⟨hle.trans hmono, ?_⟩
  rcases hcase with hsum | ⟨hin, hlt⟩
  · rcases summoned_step hu hsum hs with rfl | hv
    · exact Or.inr ⟨by simp, hle.trans_lt (hbegin rfl)⟩
    · exact Or.inl hv
  · exact Or.inr ⟨List.mem_append_left _ hin, hlt.trans_le hmono⟩

/-- A reload goes on through all that has happened. No other has begun, and a change of the session
was heard. -/
structure Reloading (ticket : Nat) (as : List Happening) (s : Visit) : Prop where
  reload : s.reload = .underWay ticket
  begun : as.countP Happening.begins = 0
  heard : (∃ n, 0 < n ∧ .change n ∈ as) → s.follower.again = true

/-- Happenings that do not concern the follower. -/
theorem Reloading.keep (h : Reloading ticket as s) (hb : a.begins = false)
    (hc : ∀ n, a ≠ .change n) (hr : t.reload = s.reload) (hf : t.follower = s.follower) :
    Reloading ticket (as ++ [a]) t := by
  refine ⟨hr.trans h.reload, by simp [h.begun, hb], ?_⟩
  rintro ⟨n, hn, hin⟩
  rw [hf]
  rcases List.mem_append.mp hin with hin | hin
  · exact h.heard ⟨n, hn, hin⟩
  · exact absurd (List.mem_singleton.mp hin).symm (hc n)

theorem reloading_run (hr : Reachable k s) (h : s.reload = .underWay ticket) (hrun : Run k s as t)
    (hf : ∀ e, .finish e ∉ as) : Reloading ticket as t := by
  refine hrun.invariant (P := fun as t => (∀ e, .finish e ∉ as) → Reloading ticket as t) hr
    (fun _ => ⟨h, rfl, by simp⟩) ?_ hf
  intro as u a v hu ih hs hf
  have hl := ih fun e he => hf e (List.mem_append_left _ he)
  have hstage := (manned_reachable hu).reloading (by simp [hl.reload])
  cases hu.move hs with
  | traffic => exact hl.keep rfl (fun n h => by cases h) rfl rfl
  | sign => exact hl.keep rfl (fun n h => by cases h) rfl rfl
  | listen => exact hl.keep rfl (fun n h => by cases h) rfl rfl
  | @change w n =>
    refine ⟨hl.reload, by simp [hl.begun, Happening.begins], fun hex => ?_⟩
    have hcalled : u.follower.stage = .called ∨ u.follower.again = true ∨ 0 < n := by
      obtain ⟨m, hpos, hin⟩ := hex
      rcases List.mem_append.mp hin with hin | hin
      · exact Or.inr (Or.inl (hl.heard ⟨m, hpos, hin⟩))
      · cases List.mem_singleton.mp hin
        exact Or.inr (Or.inr hpos)
    -- The task does not rest, so that the call is left for later.
    have hreload := (iterate_call u.follower n).1.mpr hstage
    rcases called_iterate n u.follower hcalled with hc | hc
    · simp [hreload] at hc
    · exact hc
  | arrive hst => simp [hstage] at hst
  | wake hst => simp [hstage] at hst
  | hit hd => simp [hl.reload] at hd
  | ask hd => simp [hl.reload] at hd
  | finish => exact absurd (List.mem_append_right _ (List.mem_singleton.mpr rfl)) (hf _)

/-- A last reload follows or has begun, and no further call has come in. -/
structure LastReload (begun : Nat) (s : Visit) : Prop where
  again : s.follower.again = false
  stage : s.follower.stage = .reloading ∨ s.follower.stage = .resting
  begun : begun = if s.reload = .due then 0 else 1

theorem lastReload_rest (ha : s.follower.again = false) : LastReload 1 s.rest := by
  simp only [rest, Follower.finish, ha]
  exact ⟨rfl, Or.inr rfl, rfl⟩

/-- Without a change of the session no call comes in. -/
theorem lastReload_run (hr : Reachable k s) (h : LastReload 0 s) (hrun : Run k s as t)
    (hc : ∀ n, .change n ∈ as → n = 0) : LastReload (as.countP Happening.begins) t := by
  refine hrun.invariant (P := fun as t => (∀ n, .change n ∈ as → n = 0) →
    LastReload (as.countP Happening.begins) t) hr (fun _ => h) ?_ hc
  intro as u a v hu ih hs hc
  have hl := ih fun n hn => hc n (List.mem_append_left _ hn)
  have hb := hl.begun
  rw [List.countP_append]
  cases hu.move hs with
  | @change w n =>
    have hn : n = 0 := hc n (by simp)
    subst hn
    exact { hl with }
  | arrive hst =>
    rcases hl.stage with hx | hx <;> simp [hst] at hx
  | wake hst =>
    rcases hl.stage with hx | hx <;> simp [hst] at hx
  | hit hd =>
    rw [if_pos hd] at hb
    rw [hb]
    exact lastReload_rest hl.again
  | ask hd =>
    rw [if_pos hd] at hb
    rw [hb]
    exact ⟨hl.again, hl.stage, rfl⟩
  | finish hu =>
    rw [if_neg (by simp [hu])] at hb
    rw [hb]
    exact lastReload_rest hl.again
  | _ => exact { hl with }

/-- When the follower's task waits and no call has come in, a reload has begun since any change of the
session, and a list shown as loaded was asked for after it. Changes that come while a reload goes on,
however many, lead to a single further one, which is due as soon as that reload ends. No reply to a
load or a search may be under way while 2⁶⁴ tickets or epochs pass; this bound enters only through
`Step.land` of the traffic, as `Traffic.Prompt`. -/
theorem reload_after_change (h : Reachable k s) :
    (∀ n t as u, 0 < n → Step k s (.change n) t → Run k t as u → u.Idle →
      .begin ∈ as ∧ (u.traffic.catalog.shown.phase = .success →
        ∃ r, ShownFrom r u.traffic ∧ s.traffic.tickets < r.ticket)) ∧
    ∀ ticket as t e u bs v, s.reload = .underWay ticket → Run k s as t → (∀ e, .finish e ∉ as) →
      (∃ n, 0 < n ∧ .change n ∈ as) → Step k t (.finish e) u → Run k u bs v →
      (∀ n, .change n ∈ bs → n = 0) →
      u.reload = .due ∧
        (as ++ .finish e :: bs).countP Happening.begins = if v.reload = .due then 0 else 1 := by
  constructor
  · intro n t as u hn hs hrun hi
    have ht := h.step hs
    have hu := ht.run hrun
    cases h.move hs with
    | @change w =>
      have hcalled := called_iterate n s.follower (Or.inr (Or.inr hn))
      obtain ⟨_, hcase⟩ := summoned_run ht (hcalled.imp_right Or.inl) hrun
      obtain ⟨hbegin, hlt⟩ := hcase.resolve_left (hi.not_summoned (manned_reachable hu))
      refine ⟨hbegin, ?_⟩
      obtain ⟨es, he⟩ := hrun.traffic ht
      have hnew := renewed_outdated (ticketed_reachable h) hn
      exact (renewed_run (traffic_reachable ht) hnew he).shown hlt
  · intro ticket as t e u bs v hunder hrun hf hch hs hrun' hc
    have hbusy := reloading_run h hunder hrun hf
    have ht := h.run hrun
    have hlast : LastReload 0 u ∧ u.reload = .due := by
      cases ht.move hs with
      | finish =>
        simp only [rest, Follower.finish, after, hbusy.heard hch]
        exact ⟨⟨rfl, Or.inl rfl, rfl⟩, rfl⟩
    have hv := lastReload_run (ht.step hs) hlast.1 hrun' hc
    refine ⟨hlast.2, ?_⟩
    have hfinish : (Happening.finish e).begins = false := rfl
    rw [List.countP_append, hbusy.begun, Nat.zero_add,
      List.countP_cons_of_neg (by simp [hfinish])]
    exact hv.begun

/-- The session changes twice while the follower's reload, begun for a change before, is under way.
The reload brings Ann, and the single further one Bob. -/
theorem reload_after_change_twice :
    ∃ (s : Visit) (as : List Happening) (v : Visit),
      Reachable (fun _ _ _ _ => True) s ∧ Run (fun _ _ _ _ => True) s as v ∧
      s.reload = .underWay 1 ∧ v.sessions.sent = s.sessions.sent + 2 ∧ v.Idle ∧
      v.traffic.catalog.shown.companions.map (·.id) = [2] ∧
      (∃ r, ShownFrom r v.traffic ∧ s.traffic.tickets < r.ticket) ∧
      as.countP Happening.begins = 1 := by
  have h := (initial_lobby.reachable fun _ _ _ _ => True).step (.arrive rfl)
  have h := h.step (@Step.enter _ _ _ 3 ⟨true, some 3, none, none, none⟩ _ fair_inOrder rfl)
  have h := h.step (.wake rfl)
  have hs := h.step (.begin rfl)
  have next {s t : Visit} {a : Happening} (_ : Reachable (fun _ _ _ _ => True) s)
      (h : Step (fun _ _ _ _ => True) s a t) : Step (fun _ _ _ _ => True) s a t := h
  have hc := next hs
    (@Step.enter _ _ _ 3 ⟨true, some 4, none, none, none⟩ _ fair_inOrder rfl)
  have ht := hs.step hc
  have hbusy := (Run.refl _).step (next ht
    (@Step.enter _ _ _ 3 ⟨true, some 5, none, none, none⟩ _ fair_inOrder rfl))
  have hbusy := hbusy.step (.sign (List.mem_singleton.mpr rfl) rfl rfl)
  have hbusy := hbusy.step ((ht.run hbusy).answer (@Companions.Step.answer _ _ [] [] _
    (.ok (⟨[{ id := 1, name := "Ann" }], 1, 0, 0⟩ : Page)) ∅ rfl rfl trivial) rfl)
  have hu := ht.run hbusy
  have hf := next hu (.finish (by rfl) (by rfl)
    (@Companions.Step.land _ _ [] [] _ _ _ rfl rfl fun _ => ⟨by decide, by decide⟩))
  have hv := hu.step hf
  have hcalm := (Run.refl _).step (next hv (.begin rfl))
  have hcalm := hcalm.step (.sign (List.mem_singleton.mpr rfl) rfl rfl)
  have hcalm := hcalm.step ((hv.run hcalm).answer (@Companions.Step.answer _ _ [] [] _
    (.ok (⟨[{ id := 2, name := "Bob" }], 1, 0, 0⟩ : Page)) ∅ rfl rfl trivial) rfl)
  have hcalm := hcalm.step (.finish (by rfl) (by rfl)
    (@Companions.Step.land _ _ [] [] _ _ _ rfl rfl fun _ => ⟨by decide, by decide⟩))
  have hall := ((Run.refl _).step hc).trans hbusy
  obtain ⟨hlist, hone⟩ := reload_after_change hs
  obtain ⟨_, hshown⟩ := hlist 1 _ _ _ Nat.one_pos hc ((hbusy.step hf).trans hcalm)
    ⟨Or.inr rfl, rfl⟩
  obtain ⟨_, hcount⟩ := hone 1 _ _ _ _ _ _ rfl hall (by simp)
    ⟨1, Nat.one_pos, List.mem_append_left _ (List.mem_singleton.mpr rfl)⟩ hf hcalm (by simp)
  refine ⟨_, _, _, hs, (hall.step hf).trans hcalm, rfl, rfl, ⟨Or.inr rfl, rfl⟩, ?_, hshown rfl, ?_⟩
  · decide +kernel
  · rw [List.append_assoc]
    exact hcount

end Visit
end Companions
