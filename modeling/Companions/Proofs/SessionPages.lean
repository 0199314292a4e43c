import Companions.Proofs.Visit

/-! Pages in the cache while the visiting session changes. Each was asked for, signed and received in
the session that is in force now. -/
namespace Companions

section Traffic
variable {k : Conduct} {s t : Traffic} {a : Event} {e : Errand} {p : Kept}

/-- An errand is one from before, at most answered meanwhile, or has just been sent. -/
theorem Step.errand (h : Step k s a t) (he : e ∈ t.errands) :
    (∃ e' ∈ s.errands, e.await = e'.await ∧ e.ticket = e'.ticket ∧ e.epoch = e'.epoch ∧
      ((∀ x, a ≠ .answer x) → e = e')) ∨
      e.answer = none ∧ e.epoch = t.epochs ∧
        (e.HasTicket → e.ticket = t.tickets ∧ t.tickets = s.tickets + 1) := by
  have old : ∀ e ∈ s.errands, ∃ e' ∈ s.errands, e.await = e'.await ∧ e.ticket = e'.ticket ∧
      e.epoch = e'.epoch ∧ ((∀ x, a ≠ .answer x) → e = e') :=
    fun e he => ⟨e, he, rfl, rfl, rfl, fun _ => rfl⟩
  cases h.move with
  | seek f hq ho =>
    obtain ⟨ht, hk, hs⟩ := Traffic.seek_sends (s := s.leaving f) ho
    rcases hs with hs | ⟨e₀, hs, ha, _, hn, hx⟩
    · exact Or.inl (old e (hs ▸ he))
    · rw [hs] at he
      rcases List.mem_append.mp he with he | he
      · exact Or.inl (old e he)
      · rw [List.mem_singleton.mp he]
        exact Or.inr ⟨ha, hx.trans hk.symm, fun _ => ⟨hn.trans ht.symm, ht⟩⟩
  | toggle =>
    rcases List.mem_append.mp he with he | he
    · exact Or.inl (old e he)
    · rw [List.mem_singleton.mp he]
      exact Or.inr ⟨rfl, rfl, fun hw => by cases hw⟩
  | send op r ht =>
    rcases List.mem_append.mp he with he | he
    · exact Or.inl (old e he)
    · rw [List.mem_singleton.mp he]
      exact Or.inr ⟨rfl, rfl, fun hw => by simp [Errand.HasTicket, ht] at hw⟩
  | @answer xs ys e₀ _ _ hs ha hk =>
    left
    rcases mem_of_replace hs e he with he | rfl
    · exact old e he
    · exact ⟨e₀, by simp [hs], rfl, rfl, rfl, fun hx => (hx e₀ rfl).elim⟩
  | land hs => exact Or.inl (old e (mem_of_drop hs e he))
  | confirm hs => exact Or.inl (old e (mem_of_drop hs e he))
  | rollBack hs => exact Or.inl (old e (mem_of_drop hs e he))
  | @reorder xs ys e₀ hs hw =>
    obtain ⟨ht, hk, hq⟩ := Traffic.seek_sends
      (s := ({ s with errands := xs ++ ys } : Traffic).reordered) (q := .reordered)
      (Catalog.offers_of_load rfl)
    rcases hq with hq | ⟨e₁, hq, ha, _, hn, hx⟩
    · rw [hq] at he
      exact Or.inl (old e (mem_of_drop hs e he))
    · rw [hq] at he
      rcases List.mem_append.mp he with he | he
      · exact Or.inl (old e (mem_of_drop hs e he))
      · rw [List.mem_singleton.mp he]
        exact Or.inr ⟨ha, hx.trans hk.symm, fun _ => ⟨hn.trans ht.symm, ht⟩⟩
  | drop hs => exact Or.inl (old e (mem_of_drop hs e he))
  | _ => exact Or.inl (old e he)

/-- A page comes into the cache only as the reply to the newest ticket, in the epoch in which it was
issued. -/
theorem Step.kept (h : Step k s a t) (hp : p ∈ t.catalog.cache.pages) :
    p ∈ s.catalog.cache.pages ∨
      ∃ e d taken, a = .land e ∧ e ∈ s.errands ∧ s.Prompt e ∧ s.catalog.cacheable = true ∧
        e.await = .page s.catalog.newest d ∧ e.page? = some (p.page, taken) ∧
        p.key = d.cacheKey ∧ p.storedAt = s.now := by
  cases h.move with
  | seek f hq ho => exact Or.inl (Traffic.mem_of_mem_seek (s := s.leaving f) ho hp)
  | toggle => cases hp
  | @land xs ys e reply taken n c hs ha hpr ht hl =>
    cases hl with
    | stale => exact Or.inl hp
    | failed => exact Or.inl hp
    | @shown page cache counted hn hpage hc =>
      rcases hc with rfl | ⟨hc, d, hw, rfl⟩
      · exact Or.inl hp
      · rcases PageCache.mem_set hp with rfl | hp
        · have hpt : e.page? = some (page, taken) := by simp [Errand.page?, ha, hpage]
          exact Or.inr ⟨e, d, taken, rfl, by simp [hs], hpr, hc, hn ▸ hw, hpt, rfl, rfl⟩
        · exact Or.inl hp
  | reorder =>
    have := Traffic.mem_of_mem_seek (q := .reordered) (Catalog.offers_of_load rfl) hp
    cases this
  | evict hsub => exact Or.inl (hsub.subset hp)
  | outdate => cases hp
  | _ => exact Or.inl hp

/-- Tickets are issued one at a time, and epochs go on. -/
theorem Step.counts (h : Step k s a t) :
    (t.tickets = s.tickets ∨ t.tickets = s.tickets + 1) ∧ s.epochs ≤ t.epochs := by
  cases h.move with
  | seek f hq ho =>
    obtain ⟨ht, hk, _⟩ := Traffic.seek_sends (s := s.leaving f) ho
    exact ⟨Or.inr ht, Nat.le_of_eq hk.symm⟩
  | @reorder xs ys e hs hw =>
    obtain ⟨ht, hk, _⟩ := Traffic.seek_sends
      (s := ({ s with errands := xs ++ ys } : Traffic).reordered) (q := .reordered)
      (Catalog.offers_of_load rfl)
    exact ⟨Or.inr ht, Nat.le_of_eq hk.symm⟩
  | toggle => exact ⟨Or.inl rfl, Nat.le_succ _⟩
  | confirm => exact ⟨Or.inl rfl, Nat.le_succ _⟩
  | outdate => exact ⟨Or.inl rfl, Nat.le_succ _⟩
  | _ => exact ⟨Or.inl rfl, le_rfl⟩

end Traffic

/-- The errand whose reply arrives. -/
def Happening.lands? : Happening → Option Errand
  | traffic (.land e) | finish e => some e
  | _ => none

namespace Visit

variable {k : Conduct} {s₀ s t u : Visit} {a : Happening} {as : List Happening} {e : Errand}
  {p : Kept} {v : Session}

theorem Move.tickets (h : Move k s a t) :
    s.traffic.tickets ≤ t.traffic.tickets ∧
      (a = .begin → s.traffic.tickets < t.traffic.tickets) := by
  have grow {b : Event} {t : Traffic} (hb : Companions.Step k s.traffic b t) :
      s.traffic.tickets ≤ t.tickets := by
    rcases hb.counts.1 with h | h <;> omega
  cases h with
  | traffic hb => exact ⟨grow hb, fun h => by cases h⟩
  | hit _ _ _ ht =>
    have hlt : s.traffic.tickets < s.traffic.tickets + 1 := Nat.lt_succ_self _
    exact ⟨(ht ▸ hlt).le, fun _ => ht ▸ hlt⟩
  | ask _ _ _ _ _ ht =>
    have hlt : s.traffic.tickets < s.traffic.tickets + 1 := Nat.lt_succ_self _
    exact ⟨(ht ▸ hlt).le, fun _ => ht ▸ hlt⟩
  | finish _ _ hb => exact ⟨grow hb, fun h => by cases h⟩
  | _ => exact ⟨le_rfl, fun h => by cases h⟩

/-- The traffic takes a step of its own when a reply arrives, or when a ticket is issued. -/
theorem Move.landing (h : Move k s a t) (hl : a.lands? = some e) :
    Companions.Step k s.traffic (.land e) t.traffic := by
  cases h with
  | @traffic a t hb =>
    cases a with
    | land =>
      cases hl
      exact hb
    | _ => cases hl
  | finish _ _ hb =>
    cases hl
    exact hb
  | _ => cases hl

theorem Move.event (h : Move k s a t) (hn : t.traffic.tickets ≠ s.traffic.tickets) :
    ∃ b, Companions.Step k s.traffic b t.traffic := by
  cases h with
  | traffic hb => exact ⟨_, hb⟩
  | hit _ hb => exact ⟨_, hb⟩
  | ask _ hb => exact ⟨_, hb⟩
  | finish _ _ hb => exact ⟨_, hb⟩
  | _ => exact absurd rfl hn

theorem papers_after_old {b : Event} {t : Traffic} {n : Nat} (hs : Companions.Step k s.traffic b t)
    (hn : n ≤ s.traffic.tickets) : (s.after b t).papers n = s.papers n := by
  simp only [after]
  split
  · rfl
  · rename_i hne
    refine Function.update_of_ne ?_ _ _
    rcases hs.counts.1 with h | h <;> omega

/-- No page is given by a step of the catalog itself. -/
theorem Signed.of_step {b : Event} {t : Traffic} (h : Signed s.papers s.traffic)
    (hs : Companions.Step k s.traffic b t) (hb : ∀ x, b ≠ .answer x) : Signed s.papers t := by
  intro e he hp
  rcases hs.errand he with ⟨e', he', _, _, _, hsame⟩ | ⟨ha, _⟩
  · exact h e (hsame hb ▸ he') hp
  · simp [Errand.page?, ha] at hp

theorem Signed.after {b : Event} {t : Traffic} (h : Signed s.papers t) (ht : Ticketed s.traffic)
    (hs : Companions.Step k s.traffic b t) : Signed (s.after b t).papers t := by
  intro e he hp
  rcases hs.errand he with ⟨e', he', _, h2, _⟩ | ⟨ha, _⟩
  · rw [papers_after_old hs (h2 ▸ (ht.le e' he').1)]
    exact h e he hp
  · simp [Errand.page?, ha] at hp

theorem signed_step (hr : Reachable k s) (h : Signed s.papers s.traffic) (hs : Step k s a t) :
    Signed t.papers t.traffic := by
  have ht := ticketed_reachable hr
  cases hr.move hs with
  | traffic hb hg => exact hg.after ht hb
  | @sign e he hw hn =>
    intro x hx hp
    by_cases hxe : x.ticket = e.ticket
    · simp [Visit.sign, hxe]
    · simp only [Visit.sign, Function.update_of_ne hxe]
      exact h x hx hp
  | hit hd hb => exact (h.of_step hb fun x hx => by cases hx).after ht hb
  | ask hd hb => exact (h.of_step hb fun x hx => by cases hx).after ht hb
  | finish hd hw hb => exact (h.of_step hb fun x hx => by cases hx).after ht hb
  | _ => exact h

theorem signed_reachable (h : Reachable k s) : Signed s.papers s.traffic := by
  refine h.invariant ?_ fun _ _ _ => signed_step
  rintro _ ⟨_, _, _, _, _, _, hg, rfl⟩
  exact hg

/-- The requests whose page may still be kept were issued, and signed if at all, in this session. -/
def Stamped (s : Visit) : Prop :=
  ∀ e ∈ s.traffic.errands, e.HasTicket → e.epoch = s.traffic.epochs →
    (s.papers e.ticket).issued = some s.session ∧
      ∀ v, (s.papers e.ticket).signed = some v → v = s.session

theorem Stamped.after {b : Event} {t : Traffic} (h : Stamped s) (ht : Ticketed s.traffic)
    (hs : Companions.Step k s.traffic b t) : Stamped (s.after b t) := by
  intro e he hw hk
  rcases hs.errand he with ⟨e', he', h1, h2, h3, _⟩ | ⟨_, _, hnew⟩
  · have hle := ht.le e' he'
    have hmono := hs.counts.2
    have hk' : e'.epoch = s.traffic.epochs := by
      have : e.epoch = t.epochs := hk
      omega
    have hw' : e'.HasTicket := by
      unfold Errand.HasTicket at hw ⊢
      rwa [← h1]
    rw [h2, papers_after_old hs hle.1]
    exact h e' he' hw' hk'
  · obtain ⟨hn, hsucc⟩ := hnew hw
    simp only [Visit.after, if_neg (show t.tickets ≠ s.traffic.tickets by omega), hn,
      Function.update_self]
    exact ⟨rfl, fun v hv => by cases hv⟩

theorem stamped_initial (h : s.Initial) : Stamped s := by
  obtain ⟨traffic, sessions, ht, _, rfl⟩ := h
  obtain ⟨_, _, _, _, _, _, rfl⟩ := ht
  exact fun e he => by cases he

theorem stamped_step (hr : Reachable k s) (h : Stamped s) (hs : Step k s a t) : Stamped t := by
  have ht := ticketed_reachable hr
  cases hr.move hs with
  | traffic hb => exact h.after ht hb
  | @sign e he hw hn =>
    intro x hx hxw hk
    obtain ⟨hi, hsig⟩ := h x hx hxw hk
    by_cases hxe : x.ticket = e.ticket
    · rw [hxe] at hi ⊢
      simp only [Visit.sign, Function.update_self]
      refine ⟨hi, fun v hv => ?_⟩
      cases hv
      rfl
    · simp only [Visit.sign, Function.update_of_ne hxe]
      exact ⟨hi, hsig⟩
  | @change w n ha hv =>
    intro x hx hxw hk
    have hle := (ht.le x hx).2
    have hk : x.epoch = s.traffic.epochs + n := hk
    have hz : n = 0 := by omega
    subst hz
    have hsame : w.session = s.session := hv rfl
    simp only [Visit.session, hsame]
    exact h x hx hxw hk
  | listen ha hv =>
    intro x hx hxw hk
    simp only [Visit.session, hv]
    exact h x hx hxw hk
  | arrive => exact h
  | wake => exact h
  | hit hd hb => exact h.after ht hb
  | ask hd hb => exact h.after ht hb
  | finish hd hw hb => exact h.after ht hb

theorem stamped_run (h₀ : s₀.Initial) (h : Run k s₀ as s) : Stamped s :=
  h.invariant (P := fun _ s => Stamped s) (h₀.reachable k) (stamped_initial h₀)
    fun _ _ _ _ => stamped_step

theorem Reachable.start (h : Reachable k s) (op : Operation) :
    Step k s (.traffic (.start op)) (s.after (.start op) (s.traffic.start op)) := by
  have hs : Companions.Step k s.traffic (.start op) (s.traffic.start op) := .start s.traffic op
  have hg := (signed_reachable h).of_step hs fun x hx => by cases hx
  exact .traffic hs hg fun x hx => by cases hx

theorem Reachable.land (h : Reachable k s) {t : Traffic}
    (hs : Companions.Step k s.traffic (.land e) t) (hn : s.reload ≠ .underWay e.ticket) :
    Step k s (.traffic (.land e)) (s.after (.land e) t) := by
  have hg := (signed_reachable h).of_step hs fun x hx => by cases hx
  refine .traffic hs hg fun x hx _ => ?_
  cases hx
  exact hn

/-- The backend replies to a request that was signed. -/
theorem Reachable.answer (h : Reachable k s) {t : Traffic}
    (hs : Companions.Step k s.traffic (.answer e) t)
    (hg : (s.papers e.ticket).signed.isSome) :
    Step k s (.traffic (.answer e)) (s.after (.answer e) t) := by
  refine .traffic hs ?_ fun x hx => by cases hx
  intro x hx hp
  cases hs with
  | answer he ha hk =>
    rcases mem_of_replace he x hx with hx | rfl
    · exact signed_reachable h x hx hp
    · exact hg

theorem pages_outdated (s : Traffic) (n : Nat) :
    (s.outdated (n + 1)).catalog.cache.pages = [] := by
  simp only [Traffic.outdated, Function.iterate_succ_apply']
  rfl

theorem Move.same_session (h : Move k s a t) (hn : ∀ n, a = .change n → n = 0) :
    t.session = s.session := by
  cases h with
  | change ha hv => exact hv (hn _ rfl)
  | listen ha hv => exact hv
  | _ => rfl

/-- The session stays, or nothing is left in the cache. -/
theorem Move.session (h : Move k s a t) :
    (t.session = s.session ∧ ∀ n, a = .change n → n = 0) ∨
      t.traffic.catalog.cache.pages = [] := by
  by_cases hn : ∀ n, a = .change n → n = 0
  · exact Or.inl ⟨h.same_session hn, hn⟩
  · cases h with
    | @change w n =>
      cases n with
      | zero => exact absurd (fun n ha => by cases ha; rfl) hn
      | succ n => exact Or.inr (pages_outdated s.traffic n)
    | _ => exact absurd (fun n ha => by cases ha) hn

/-- A page comes into the cache when a reply arrives that may be kept. -/
theorem Move.kept (h : Move k s a t) (hp : p ∈ t.traffic.catalog.cache.pages) :
    p ∈ s.traffic.catalog.cache.pages ∨
      ∃ e d taken, a.lands? = some e ∧ e ∈ s.traffic.errands ∧ s.traffic.Prompt e ∧
        s.traffic.catalog.cacheable = true ∧ e.await = .page s.traffic.catalog.newest d ∧
        e.page? = some (p.page, taken) ∧ p.key = d.cacheKey ∧ p.storedAt = s.traffic.now := by
  cases h with
  | traffic hb =>
    refine (hb.kept hp).imp_right ?_
    rintro ⟨e, d, taken, rfl, h⟩
    exact ⟨e, d, taken, rfl, h⟩
  | @change w n =>
    cases n with
    | zero => exact Or.inl hp
    | succ n =>
      rw [pages_outdated] at hp
      cases hp
  | hit hd hb =>
    refine (hb.kept hp).imp_right ?_
    rintro ⟨e, d, taken, he, _⟩
    cases he
  | ask hd hb =>
    refine (hb.kept hp).imp_right ?_
    rintro ⟨e, d, taken, he, _⟩
    cases he
  | finish hd hw hb =>
    refine (hb.kept hp).imp_right ?_
    rintro ⟨e, d, taken, he, h⟩
    cases he
    exact ⟨_, d, taken, rfl, h⟩
  | _ => exact Or.inl hp

/-- The reply to a load arrives, and its page is kept. -/
structure Keeps (k : Conduct) (p : Kept) (e : Errand) (s : Visit) (a : Happening) (t : Visit) :
    Prop where
  step : Step k s a t
  lands : a.lands? = some e
  absent : p ∉ s.traffic.catalog.cache.pages
  kept : p ∈ t.traffic.catalog.cache.pages
  load : ∃ n d taken, e.await = .page n d ∧ e.page? = some (p.page, taken) ∧ p.key = d.cacheKey

/-- Every page in the cache is there since a reply arrived whose request was issued and signed in the
session that was stored then. That session has been stored ever since. No reply to a load or a
search may be under way while 2⁶⁴ tickets or epochs pass; this bound enters only through `Step.land`
of the traffic, as `Traffic.Prompt`. -/
theorem kept_pages_in_session (h₀ : s₀.Initial) (h : Run k s₀ as s)
    (hp : p ∈ s.traffic.catalog.cache.pages) :
    ∃ bs a cs u v e, as = bs ++ a :: cs ∧ Run k s₀ bs u ∧ Keeps k p e u a v ∧ Run k v cs s ∧
      (u.papers e.ticket).issued = some s.session ∧ (u.papers e.ticket).signed = some s.session ∧
      u.session = s.session ∧ ∀ n, .change n ∈ cs → n = 0 := by
  induction h with
  | refl =>
    obtain ⟨traffic, sessions, ht, _, rfl⟩ := h₀
    obtain ⟨_, _, _, _, _, _, rfl⟩ := ht
    cases hp
  | @step s t b as h hs ih =>
    have hr : Reachable k s := (h₀.reachable k).run h
    have hm := hr.move hs
    obtain ⟨hsame, hno⟩ := hm.session.resolve_right fun hnil => by simp [hnil] at hp
    by_cases hin : p ∈ s.traffic.catalog.cache.pages
    · obtain ⟨bs, a, cs, u, v, e, rfl, hu, hk, hv, hi, hg, hx, hc⟩ := ih hin
      refine ⟨bs, a, cs ++ [b], u, v, e, by simp, hu, hk, .step hv hs, ?_, ?_, ?_, ?_⟩
      · rw [hsame, hi]
      · rw [hsame, hg]
      · rw [hsame, hx]
      · intro n hn
        rcases List.mem_append.mp hn with hn | hn
        · exact hc n hn
        · exact hno n (List.mem_singleton.mp hn).symm
    · obtain ⟨e, d, taken, hl, he, hpr, hc, hw, hpage, hkey, _⟩ := (hm.kept hp).resolve_left hin
      have ht := ticketed_reachable hr
      have hticket : e.HasTicket := by simp [Errand.HasTicket, hw, Await.ticket?]
      have hnew : e.ticket = s.traffic.tickets := ht.ticket_eq he hpr (by rw [hw]; rfl)
      -- The epoch in which the request was issued goes on, and with it the session.
      have hepoch := ht.epoch_eq he hpr hticket hnew hc
      obtain ⟨hi, hsig⟩ := stamped_run h₀ h e he hticket hepoch
      obtain ⟨v, hv⟩ := Option.isSome_iff_exists.mp (signed_reachable hr e he (by rw [hpage]; rfl))
      refine ⟨as, b, [], s, t, e, rfl, h, ⟨hs, hl, hin, hp, _, d, taken, hw, hpage, hkey⟩,
        .refl t, ?_, ?_, hsame.symm, fun n hn => by cases hn⟩
      · rw [hsame, hi]
      · rw [hsame, hv, hsig v hv]

/-- A load is issued outside, and answered and received under owner 3, after a visit to owner 7 that
a listener ended. Its page is shown and not kept; the follower's reload then brings a page that is. -/
theorem kept_pages_in_session_visited :
    ∃ (s₀ : Visit) (as : List Happening) (s : Visit) (p : Kept), s₀.Initial ∧
      Run (fun _ _ _ _ => True) s₀ as s ∧ s.traffic.catalog.cache.pages = [p] ∧
      s.traffic.tickets = 2 ∧ s.session.owner = some 3 ∧
      ∃ bs a cs u v e, as = bs ++ a :: cs ∧ Run (fun _ _ _ _ => True) s₀ bs u ∧
        Keeps (fun _ _ _ _ => True) p e u a v ∧ Run (fun _ _ _ _ => True) v cs s ∧
        (u.papers e.ticket).issued = some s.session ∧
        (u.papers e.ticket).signed = some s.session ∧
        u.session = s.session ∧ ∀ n, .change n ∈ cs → n = 0 := by
  have hr := initial_lobby.reachable fun _ _ _ _ => True
  have h : Run (fun _ _ _ _ => True) lobby _ _ := .refl _
  have h := h.step ((hr.run h).start (.load {}))
  have h := h.step (@Step.enter _ _ _ 3 ⟨true, some 7, some 4, none, none⟩ _ fair_inOrder rfl)
  have h := h.step (@Step.enter _ _ _ 3 ⟨true, some 3, some 4, none, none⟩ _ fair_inOrder rfl)
  have h := h.step (.sign (List.mem_singleton.mpr rfl) rfl rfl)
  have h := h.step ((hr.run h).answer (@Companions.Step.answer _ _ [] [] _
    (.ok (⟨[{ id := 1, name := "Ann" }], 1, 0, 0⟩ : Page)) ∅ rfl rfl trivial) rfl)
  have h := h.step ((hr.run h).land
    (@Companions.Step.land _ _ [] [] _ _ _ rfl rfl fun _ => ⟨by decide, by decide⟩) (by decide))
  have h := h.step (.arrive rfl)
  have h := h.step (.begin rfl)
  have h := h.step (.sign (List.mem_singleton.mpr rfl) rfl rfl)
  have h := h.step ((hr.run h).answer (@Companions.Step.answer _ _ [] [] _
    (.ok (⟨[{ id := 2, name := "Bob" }], 1, 0, 0⟩ : Page)) ∅ rfl rfl trivial) rfl)
  have h := h.step (.finish (by rfl) (by rfl)
    (@Companions.Step.land _ _ [] [] _ _ _ rfl rfl fun _ => ⟨by decide, by decide⟩))
  exact ⟨_, _, _, _, initial_lobby, h, rfl, rfl, rfl,
    kept_pages_in_session initial_lobby h (List.mem_cons_self ..)⟩

end Visit
end Companions
