import Companions.Proofs.LateReplies

/-! What the phase on show tells about the newest request: the list is shown as loading while that
request is under way, and as searching while it is a search. -/
namespace Companions

variable {k : Conduct} {s t : Traffic} {a : Event} {e : Errand} {q : Quest} {xs ys : List Errand}
  {lost lost' : Prop} {x : Nat × Bool}

/-- The ticket of a request for a page or a search result, and whether it is for the latter. -/
def Errand.seeks? (e : Errand) : Option (Nat × Bool) :=
  match e.await with
  | .page _ _ => some (e.ticket, false)
  | .found _ => some (e.ticket, true)
  | .favorite _ | .order | .receipt => none

namespace Traffic

/-- The tickets under way. -/
def sought (s : Traffic) : List (Nat × Bool) := s.errands.filterMap Errand.seeks?

/-- The newest request is under way. -/
def Awaited (s : Traffic) : Prop := ∃ isSearch, (s.tickets, isSearch) ∈ s.sought

/-- The newest request is a search, and under way. -/
def AwaitedSearch (s : Traffic) : Prop := (s.tickets, true) ∈ s.sought

end Traffic

theorem Errand.seeks?_of_ticket? {n : UInt64} (h : e.await.ticket? = some n) :
    ∃ b, e.seeks? = some (e.ticket, b) ∧ (b = true → e.await = .found n) := by
  cases hw : e.await with
  | page n' d => exact ⟨false, by simp [seeks?, hw], by simp⟩
  | found n' =>
    rw [hw] at h
    cases h
    exact ⟨true, by simp [seeks?, hw], fun _ => rfl⟩
  | _ =>
    rw [hw] at h
    cases h

theorem Errand.seeks?_eq_none (h : e.await.ticket? = none) : e.seeks? = none := by
  unfold seeks?
  cases hw : e.await <;> simp [hw, Await.ticket?] at h ⊢

theorem Ticketed.sought_le (h : Ticketed s) (hx : x ∈ s.sought) : x.1 ≤ s.tickets := by
  obtain ⟨e, he, hx⟩ := List.mem_filterMap.mp hx
  unfold Errand.seeks? at hx
  split at hx <;> cases hx <;> exact (h.le e he).1

/-- Before the tickets are counted from zero again, whoever answers the newest one holds it. -/
theorem Ticketed.holds_newest (h : Ticketed s) (he : e ∈ s.errands)
    (hw : e.await.ticket? = some s.catalog.newest) (hlt : s.tickets < 2 ^ 64) :
    e.ticket = s.tickets := by
  have hn := h.ticket e he _ hw
  rw [h.newest] at hn
  exact eq_of_ofNat_eq hn.symm (h.le e he).1 (by omega)

/-- A request without a ticket comes. -/
theorem sought_send (ht : t.errands = s.errands ++ [e]) (he : e.await.ticket? = none) :
    t.sought = s.sought := by
  simp [Traffic.sought, ht, Errand.seeks?_eq_none he]

/-- A request without a ticket is over. -/
theorem sought_drop (hs : s.errands = xs ++ e :: ys) (ht : t.errands = xs ++ ys)
    (he : e.await.ticket? = none) : t.sought = s.sought := by
  simp [Traffic.sought, hs, ht, Errand.seeks?_eq_none he]

/-- Of the tickets under way, one is so no longer. -/
structure Loses (x : Nat × Bool) (s t : Traffic) : Prop where
  tickets : t.tickets = s.tickets
  sublist : t.sought.Sublist s.sought
  mem : x ∈ s.sought
  rest : ∀ y ∈ s.sought, y ∈ t.sought ↔ y.1 ≠ x.1

theorem Loses.of_errands (hn : (s.sought.map (·.1)).Nodup) (hs : s.errands = xs ++ e :: ys)
    (he : e.seeks? = some x) (ht : t.errands = xs ++ ys) (htick : t.tickets = s.tickets) :
    Loses x s t := by
  have hsought : s.sought = xs.filterMap Errand.seeks? ++ x :: ys.filterMap Errand.seeks? := by
    simp [Traffic.sought, hs, he]
  have htsought : t.sought = xs.filterMap Errand.seeks? ++ ys.filterMap Errand.seeks? := by
    simp [Traffic.sought, ht]
  rw [hsought, List.map_append, List.map_cons] at hn
  have hout := (List.nodup_cons.mp (List.nodup_middle.mp hn)).1
  rw [← List.map_append, ← htsought] at hout
  refine ⟨htick, ?_, by simp [hsought], ?_⟩
  · rw [hsought, htsought]
    exact (List.Sublist.refl _).append (List.sublist_cons_self _ _)
  · intro y hy
    constructor
    · intro hm he
      exact hout (he ▸ List.mem_map_of_mem hm)
    · intro hne
      rw [hsought] at hy
      rw [htsought]
      rcases List.mem_append.mp hy with hy | hy
      · exact List.mem_append_left _ hy
      · rcases List.mem_cons.mp hy with rfl | hy
        · exact absurd rfl hne
        · exact List.mem_append_right _ hy

/-- If it is not the newest, then the newest request is under way as it was before. -/
theorem Loses.newest_iff (h : Loses x s t) (hx : x.1 ≠ s.tickets) (b : Bool) :
    (t.tickets, b) ∈ t.sought ↔ (s.tickets, b) ∈ s.sought := by
  rw [h.tickets]
  constructor
  · intro hm
    exact h.sublist.subset hm
  · intro hm
    exact (h.rest _ hm).mpr (Ne.symm hx)

theorem Loses.not_newest (h : Loses x s t) (hx : x.1 = s.tickets) (b : Bool) :
    (t.tickets, b) ∉ t.sought := by
  rw [h.tickets]
  intro hm
  exact (h.rest _ (h.sublist.subset hm)).mp hm hx.symm

/-- What a step does with the tickets under way and with the phase on show. -/
inductive Pursues (s : Traffic) (a : Event) (t : Traffic) : Prop
  | keep (hn : t.tickets = s.tickets) (he : t.sought = s.sought)
      (hp : t.catalog.shown.phase = s.catalog.shown.phase)
      (hs : t.catalog.shown.searching = s.catalog.shown.searching)
  /-- A ticket is issued, and the cache has its page. -/
  | hit (hn : t.tickets = s.tickets + 1) (he : t.sought = s.sought)
      (hp : t.catalog.shown.phase = .success) (hs : t.catalog.shown.searching = false)
  | ask {isSearch : Bool} (hn : t.tickets = s.tickets + 1)
      (he : t.sought = s.sought ++ [(s.tickets + 1, isSearch)])
      (hp : t.catalog.shown.phase = .loading) (hs : t.catalog.shown.searching = isSearch)
  /-- An earlier ticket is answered. -/
  | stale {e : Errand} {b : Bool} (ha : a = .land e) (hw : e.HasTicket)
      (hl : Loses (e.ticket, b) s t) (hx : e.ticket ≠ s.tickets)
      (hp : t.catalog.shown.phase = s.catalog.shown.phase)
      (hs : t.catalog.shown.searching = s.catalog.shown.searching)
  /-- The newest ticket is answered, if the tickets have not been counted from zero again. -/
  | newest {e : Errand} {b : Bool} (ha : a = .land e) (hw : e.HasTicket)
      (hl : Loses (e.ticket, b) s t) (hx : s.tickets < 2 ^ 64 → e.ticket = s.tickets)
      (hp : t.catalog.shown.phase ≠ .loading)
      (hs : t.catalog.shown.searching = true → s.catalog.shown.searching = true ∧ b = false)

/-- A quest begins in a state with the same tickets. -/
theorem Pursues.seek (ho : t.catalog.Offers q) (hn : t.tickets = s.tickets)
    (he : t.sought = s.sought) : Pursues s a (t.seek q) := by
  have hs := Traffic.seek_sought ho
  generalize t.seek q = u at hs
  cases hs with
  | hit => exact .hit (congrArg (· + 1) hn) he rfl rfl
  | ask =>
    have hasked : Errand.seeks? ⟨q.request t.catalog.pageLimit t.catalog.searchLimit,
        t.catalog.awaitFor q, none, t.tickets + 1, t.epochs, t.held⟩ =
          some (t.tickets + 1, q.isSearch) := by
      obtain ⟨view, isSearch⟩ := q
      cases isSearch <;> rfl
    refine .ask (congrArg (· + 1) hn) ?_ rfl rfl
    rw [← hn, ← he]
    simp only [Traffic.sought, List.filterMap_append, List.filterMap_cons, hasked,
      List.filterMap_nil]
    rfl

/-- The reply to a load or a search arrives. -/
theorem Pursues.landing (ht : Ticketed s) (hn : (s.sought.map (·.1)).Nodup)
    (hl : LateLanding s e t) : Pursues s (.land e) t := by
  cases hl with
  | @mk xs ys reply n c receipts hs hw hl =>
    have hmem : e ∈ s.errands := by simp [hs]
    have hticket : e.HasTicket := by simp [Errand.HasTicket, hw]
    obtain ⟨b, hb, hfound⟩ := Errand.seeks?_of_ticket? hw
    have hloses := Loses.of_errands
      (t := { s with catalog := c, errands := xs ++ ys, receipts }) hn hs hb rfl rfl
    have hnewest : n = s.catalog.newest → s.tickets < 2 ^ 64 → e.ticket = s.tickets := by
      intro hnew hlt
      exact ht.holds_newest hmem (hnew ▸ hw) hlt
    cases hl with
    | stale hne =>
      refine .stale rfl hticket hloses (fun he => hne ?_) rfl rfl
      rw [ht.ticket e hmem n hw, he, ht.newest]
    | failed hnew _ hsearch =>
      refine .newest rfl hticket hloses (hnewest hnew) (fun hp => by cases hp) fun hx => ?_
      obtain ⟨hx, hne⟩ := hsearch hx
      exact ⟨hx, Bool.not_eq_true b ▸ fun hb => hne (hfound hb)⟩
    | shown hnew =>
      exact .newest rfl hticket hloses (hnewest hnew) (fun hp => by cases hp) fun hx => by cases hx

theorem LateStep.pursues (h : LateStep k s a t) (ht : Ticketed s)
    (hn : (s.sought.map (·.1)).Nodup) : Pursues s a t := by
  rcases h.step_or_landing with h | ⟨e, rfl, hl⟩
  · cases h.move with
    | @seek op q f hq ho => exact Pursues.seek (t := s.leaving f) ho rfl rfl
    | toggle => exact .keep rfl (sought_send rfl rfl) rfl rfl
    | send op r hw => exact .keep rfl (sought_send rfl hw) rfl rfl
    | @answer xs ys e reply held hx =>
      refine .keep rfl ?_ rfl rfl
      simp only [Traffic.sought, hx, List.filterMap_append, List.filterMap_cons]
      rfl
    | land hx _ _ hw hl => exact .landing ht hn (.mk hx hw hl)
    | confirm hx => exact .keep rfl (sought_drop hx rfl rfl) rfl rfl
    | rollBack hx => exact .keep rfl (sought_drop hx rfl rfl) rfl rfl
    | @reorder xs ys e hx hw =>
      exact Pursues.seek (Catalog.offers_of_load rfl) rfl
        (sought_drop hx rfl (by rw [hw]; rfl))
    | drop hx hw => exact .keep rfl (sought_drop hx rfl hw) rfl rfl
    | _ => exact .keep rfl rfl rfl rfl
  · exact .landing ht hn hl

/-- Without a new ticket, nothing begins to load. -/
theorem Pursues.loading (h : Pursues s a t) (hn : t.tickets = s.tickets)
    (hl : t.catalog.shown.phase = .loading) : s.catalog.shown.phase = .loading := by
  cases h with
  | keep _ _ hp => exact hp ▸ hl
  | hit hn' => omega
  | ask hn' => omega
  | stale _ _ _ _ hp => exact hp ▸ hl
  | newest _ _ _ _ hp => exact absurd hl hp

/-- A ticket stays under way until it is answered. -/
theorem Pursues.mem (h : Pursues s a t) (hx : x ∈ s.sought)
    (ha : ∀ e, a = .land e → e.HasTicket → e.ticket ≠ x.1) : x ∈ t.sought := by
  cases h with
  | keep _ he => exact he ▸ hx
  | hit _ he => exact he ▸ hx
  | ask _ he =>
    rw [he]
    exact List.mem_append_left _ hx
  | stale hland hw hl => exact (hl.rest x hx).mpr (Ne.symm (ha _ hland hw))
  | newest hland hw hl => exact (hl.rest x hx).mpr (Ne.symm (ha _ hland hw))

/-- How the phase on show stands to the newest request, which is lost if it is neither under way nor
answered. -/
structure Phased (lost : Prop) (s : Traffic) : Prop where
  single : (s.sought.map (·.1)).Nodup
  gone : lost → ¬s.Awaited
  loading : s.catalog.shown.phase = .loading → s.Awaited ∨ lost
  awaited : s.tickets < 2 ^ 64 → s.Awaited ∨ lost → s.catalog.shown.phase = .loading
  searching : s.tickets < 2 ^ 64 → (s.catalog.shown.searching = true ↔ s.AwaitedSearch)

theorem Phased.congr (h : Phased lost s) (hl : lost ↔ lost') : Phased lost' s := propext hl ▸ h

/-- The newest request stays, with what is shown of it. -/
theorem Phased.still (h : Phased lost s) (hn : t.tickets = s.tickets)
    (hu : (t.sought.map (·.1)).Nodup)
    (he : ∀ b, (t.tickets, b) ∈ t.sought ↔ (s.tickets, b) ∈ s.sought)
    (hp : t.catalog.shown.phase = s.catalog.shown.phase)
    (hs : t.catalog.shown.searching = s.catalog.shown.searching) : Phased lost t := by
  have hawait : t.Awaited ↔ s.Awaited := exists_congr he
  refine ⟨hu, ?_, ?_, ?_, ?_⟩
  · intro hl ha
    exact h.gone hl (hawait.mp ha)
  · rw [hp, hawait]
    exact h.loading
  · rw [hp, hawait, hn]
    exact h.awaited
  · rw [hs, hn]
    intro hlt
    exact (h.searching hlt).trans (he true).symm

/-- The newest request is answered. -/
theorem Phased.close (h : Phased lost s) (hl : Loses x s t)
    (hx : s.tickets < 2 ^ 64 → x.1 = s.tickets) (hp : t.catalog.shown.phase ≠ .loading)
    (hs : t.catalog.shown.searching = true → s.catalog.shown.searching = true ∧ x.2 = false) :
    Phased lost t := by
  refine ⟨h.single.sublist (hl.sublist.map _), ?_, fun hload => absurd hload hp, ?_, ?_⟩
  · rintro hlost ⟨b, hb⟩
    rw [hl.tickets] at hb
    exact h.gone hlost ⟨b, hl.sublist.subset hb⟩
  · intro hlt
    rw [hl.tickets] at hlt
    rintro (⟨b, hb⟩ | hlost)
    · exact absurd hb (hl.not_newest (hx hlt) b)
    · exact absurd ⟨x.2, hx hlt ▸ hl.mem⟩ (h.gone hlost)
  · intro hlt
    rw [hl.tickets] at hlt
    constructor
    · intro hsearch
      obtain ⟨hold, hpage⟩ := hs hsearch
      -- The search on show holds the newest ticket, so that it is the one answered.
      have heq : x = (s.tickets, true) :=
        List.inj_on_of_nodup_map h.single hl.mem ((h.searching hlt).mp hold) (hx hlt)
      rw [heq] at hpage
      cases hpage
    · intro hm
      exact absurd hm (hl.not_newest (hx hlt) true)

/-- A request for a page is given up; if it was the newest, it is lost. -/
theorem Phased.lose (h : Phased lost s) (hl : Loses x s t) (hx : x.2 = false)
    (hc : t.catalog = s.catalog) : Phased (lost ∨ x.1 = s.tickets) t := by
  have hu := h.single.sublist (hl.sublist.map Prod.fst)
  by_cases hnew : x.1 = s.tickets
  · have hpage : (s.tickets, true) ∉ s.sought := by
      intro hm
      have heq : x = (s.tickets, true) := List.inj_on_of_nodup_map h.single hl.mem hm hnew
      rw [heq] at hx
      cases hx
    refine ⟨hu, ?_, fun _ => Or.inr (Or.inr hnew), ?_, ?_⟩
    · rintro _ ⟨b, hb⟩
      exact hl.not_newest hnew b hb
    · intro hlt _
      rw [hl.tickets] at hlt
      rw [hc]
      exact h.awaited hlt (Or.inl ⟨x.2, hnew ▸ hl.mem⟩)
    · intro hlt
      rw [hl.tickets] at hlt
      rw [hc, h.searching hlt]
      exact iff_of_false hpage (hl.not_newest hnew true)
  · have hk := h.still hl.tickets hu (hl.newest_iff hnew) (by rw [hc]) (by rw [hc])
    exact hk.congr (by simp [hnew])

/-- A ticket is issued, and the cache has its page. -/
theorem Phased.hit (h : Phased lost s) (ht : Ticketed s) (hn : t.tickets = s.tickets + 1)
    (he : t.sought = s.sought) (hp : t.catalog.shown.phase = .success)
    (hs : t.catalog.shown.searching = false) : Phased False t := by
  have hnone : ∀ b, (t.tickets, b) ∉ t.sought := by
    intro b hm
    rw [he] at hm
    have := ht.sought_le hm
    omega
  refine ⟨by rw [he]; exact h.single, fun hx => hx.elim, fun hl => ?_, ?_, ?_⟩
  · rw [hp] at hl
    cases hl
  · rintro _ (⟨b, hm⟩ | hx)
    · exact absurd hm (hnone b)
    · exact hx.elim
  · intro _
    rw [hs]
    exact iff_of_false Bool.false_ne_true (hnone true)

/-- A ticket is issued, and a request is sent for it. -/
theorem Phased.ask {isSearch : Bool} (h : Phased lost s) (ht : Ticketed s)
    (hn : t.tickets = s.tickets + 1) (he : t.sought = s.sought ++ [(s.tickets + 1, isSearch)])
    (hp : t.catalog.shown.phase = .loading) (hs : t.catalog.shown.searching = isSearch) :
    Phased False t := by
  have hfresh : ∀ b, (s.tickets + 1, b) ∉ s.sought := by
    intro b hm
    have := ht.sought_le hm
    omega
  have hmem : ∀ b, (t.tickets, b) ∈ t.sought ↔ b = isSearch := by
    intro b
    rw [hn, he]
    simp [hfresh b]
  refine ⟨?_, fun hx => hx.elim, fun _ => Or.inl ⟨isSearch, (hmem _).mpr rfl⟩, fun _ _ => hp, ?_⟩
  · rw [he, List.map_append]
    refine List.nodup_append.mpr ⟨h.single, by simp, ?_⟩
    rintro n hm m hm' rfl
    obtain ⟨y, hy, rfl⟩ := List.mem_map.mp hm
    have hnew : y.1 = s.tickets + 1 := by simpa using hm'
    refine hfresh y.2 ?_
    rw [← hnew]
    exact hy
  · intro _
    rw [hs]
    exact eq_comm.trans (hmem true).symm

theorem phased_initial (h : s.Initial) : Phased False s := by
  obtain ⟨_, _, _, _, _, _, rfl⟩ := h
  refine ⟨.nil, fun hx => hx.elim, (fun hp => by cases hp), ?_, ?_⟩
  · rintro _ (⟨b, hb⟩ | hx)
    · cases hb
    · exact hx.elim
  · intro _
    constructor <;> intro hx <;> cases hx

/-- A request that is lost stays the newest one until a ticket is issued. -/
theorem phased_lateStep (h : Phased lost s) (ht : Ticketed s) (hs : LateStep k s a t) :
    Phased (lost ∧ t.tickets = s.tickets) t := by
  cases hs.pursues ht h.single with
  | keep hn he hp hs =>
    have hk := h.still hn (by rw [he]; exact h.single) (fun b => by rw [he, hn]) hp hs
    exact hk.congr (by simp [hn])
  | hit hn he hp hs => exact (h.hit ht hn he hp hs).congr (by simp [hn])
  | ask hn he hp hs => exact (h.ask ht hn he hp hs).congr (by simp [hn])
  | stale _ _ hl hx hp hs =>
    have hk := h.still hl.tickets (h.single.sublist (hl.sublist.map _)) (hl.newest_iff hx) hp hs
    exact hk.congr (by simp [hl.tickets])
  | newest _ _ hl hx hp hs => exact (h.close hl hx hp hs).congr (by simp [hl.tickets])

theorem phased_lateReachable (h : LateReachable k s) : Phased False s := by
  have hboth : Ticketed s ∧ Phased False s := by
    refine h.invariant (P := fun s => Ticketed s ∧ Phased False s) ?_ ?_
    · exact fun _ hi => ⟨ticketed_initial hi, phased_initial hi⟩
    · rintro s a t ⟨ht, hp⟩ hs
      exact ⟨ticketed_lateStep ht hs, (phased_lateStep hp ht hs).congr (by simp)⟩
  exact hboth.2

end Companions
