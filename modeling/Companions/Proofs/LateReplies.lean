import Companions.Proofs.Tickets

/-! Replies that are under way for any length of time. A reply that does not answer the newest
ticket changes nothing, and one that says that a request failed leaves all data as it was. -/
namespace Companions

variable {k : Conduct} {s t u : Traffic} {a : Event} {e : Errand} {c : Catalog} {n : UInt64}

/-- A step, or the arrival of a reply after however many tickets and epochs. -/
inductive LateStep (k : Conduct) : Traffic → Event → Traffic → Prop
  | step {s t : Traffic} {a : Event} (h : Step k s a t) : LateStep k s a t
  | land {s : Traffic} {xs ys : List Errand} {e : Errand} {reply : e.await.Reply}
      {taken : Finset Int64} (hs : s.errands = xs ++ e :: ys)
      (ha : e.answer = some (reply, taken)) :
      LateStep k s (.land e) ({ s with errands := xs ++ ys }.land e reply taken)

/-- One state leads to another by such a step. -/
def Leads (k : Conduct) (s t : Traffic) : Prop := ∃ a, LateStep k s a t

def LateReachable (k : Conduct) (s : Traffic) : Prop :=
  ∃ s₀, s₀.Initial ∧ Relation.ReflTransGen (Leads k) s₀ s

theorem LateReachable.fresh (k : Conduct) (held : Finset Int64) : LateReachable k (.fresh held) :=
  ⟨_, Traffic.initial_fresh held, .refl⟩

theorem LateReachable.step (h : LateReachable k s) (hs : LateStep k s a t) : LateReachable k t := by
  obtain ⟨s₀, h₀, hr⟩ := h
  exact ⟨s₀, h₀, hr.tail ⟨a, hs⟩⟩

theorem LateReachable.trans (h : LateReachable k s) (hr : Relation.ReflTransGen (Leads k) s t) :
    LateReachable k t := by
  obtain ⟨s₀, h₀, hs⟩ := h
  exact ⟨s₀, h₀, hs.trans hr⟩

theorem LateReachable.invariant {P : Traffic → Prop} (hi : ∀ s, s.Initial → P s)
    (hP : ∀ s a t, P s → LateStep k s a t → P t) (h : LateReachable k s) : P s := by
  obtain ⟨s₀, h₀, hr⟩ := h
  induction hr with
  | refl => exact hi s₀ h₀
  | tail _ hs ih =>
    obtain ⟨a, hs⟩ := hs
    exact hP _ _ _ ih hs

/-- What the arrival of a load's or a search's reply leads to, in time or not. -/
inductive LateLanding (s : Traffic) (e : Errand) : Traffic → Prop
  | mk {xs ys : List Errand} {reply : e.await.Reply} {n : UInt64} {c : Catalog}
      {receipts : List Receipt} (hs : s.errands = xs ++ e :: ys) (ht : e.await.ticket? = some n)
      (hl : Catalog.Landed s.now n e.await reply s.catalog c) :
      LateLanding s e { s with catalog := c, errands := xs ++ ys, receipts }

theorem LateStep.step_or_landing (h : LateStep k s a t) :
    Step k s a t ∨ ∃ e, a = .land e ∧ LateLanding s e t := by
  cases h with
  | step h => exact Or.inl h
  | @land xs ys e reply taken hs ha =>
    cases ht : e.await.ticket? with
    | none => exact Or.inl (.land hs ha fun hp => by simp [ht] at hp)
    | some n =>
      obtain ⟨c, hl, he⟩ := Traffic.land_landed { s with errands := xs ++ ys } e reply taken ht
      rw [he]
      exact Or.inr ⟨e, rfl, .mk hs ht hl⟩

theorem Ticketed.landing (h : Ticketed s) (hl : LateLanding s e t) : Ticketed t := by
  obtain ⟨hs, _, hl⟩ := hl
  have hd := h.drop hs
  cases hl <;> exact { hd with }

theorem ticketed_lateStep (hs : Ticketed s) (h : LateStep k s a t) : Ticketed t := by
  rcases h.step_or_landing with h | ⟨e, rfl, hl⟩
  · exact ticketed_step hs h
  · exact hs.landing hl

theorem ticketed_lateReachable (h : LateReachable k s) : Ticketed s :=
  h.invariant (fun _ => ticketed_initial) fun _ _ _ => ticketed_lateStep

/-- Tickets are never taken back. -/
theorem LateStep.tickets_le (h : LateStep k s a t) : s.tickets ≤ t.tickets := by
  rcases h.step_or_landing with h | ⟨e, rfl, ⟨_, _, _⟩⟩
  · cases h with
    | start op => simp only [Traffic.start, Traffic.proceed]; split <;> omega
    | land => simp only [Traffic.land, Traffic.proceed]; split <;> omega
    | _ => exact le_rfl
  · exact le_rfl

theorem tickets_le_of_leads (h : Relation.ReflTransGen (Leads k) s t) : s.tickets ≤ t.tickets := by
  induction h with
  | refl => exact le_rfl
  | tail _ hs ih =>
    obtain ⟨a, hs⟩ := hs
    exact ih.trans hs.tickets_le

/-- The error that a reply brings. -/
def Errand.fault? (e : Errand) : Option BackendError :=
  e.answer.bind fun a =>
    match a.1 with
    | .error b => some b
    | .ok _ => none

theorem Errand.answer_of_fault? {b : BackendError} (h : e.fault? = some b) :
    ∃ taken, e.answer = some (.error b, taken) := by
  obtain ⟨⟨reply, taken⟩, ha, hb⟩ := Option.bind_eq_some_iff.mp h
  cases reply with
  | ok x => cases hb
  | error b' =>
    cases hb
    exact ⟨taken, ha⟩

theorem LateStep.landed (h : LateStep k s (.land e) t) :
    ∃ xs ys reply taken, s.errands = xs ++ e :: ys ∧ e.answer = some (reply, taken) ∧
      t = ({ s with errands := xs ++ ys } : Traffic).land e reply taken := by
  cases h with
  | land hs ha => exact ⟨_, _, _, _, hs, ha, rfl⟩
  | step h =>
    cases h with
    | land hs ha => exact ⟨_, _, _, _, hs, ha, rfl⟩

/-- The catalog that a reply leaves is that of the section run with it. -/
theorem LateStep.land_catalog (h : LateStep k s (.land e) t) :
    e ∈ s.errands ∧ ∃ reply taken, e.answer = some (reply, taken) ∧
      t.catalog = (s.catalog.resume s.now e.await reply).1 := by
  cases h with
  | land hs ha => exact ⟨by simp [hs], _, _, ha, rfl⟩
  | step h =>
    cases h with
    | land hs ha hp => exact ⟨by simp [hs], _, _, ha, rfl⟩

theorem Catalog.resume_stale (now : Nanos) {w : Await} (hw : w.ticket? = some n)
    (hn : n ≠ c.newest) (reply : w.Reply) : (c.resume now w reply).1 = c := by
  have hl := (resume_landed now hw reply c).1
  generalize (c.resume now w reply).1 = d at hl
  cases hl with
  | stale => rfl
  | failed ht => exact (hn ht).elim
  | shown ht => exact (hn ht).elim

theorem Catalog.resume_failed (now : Nanos) {w : Await} (hw : w.ticket? = some c.newest)
    (b : BackendError) :
    ∃ searching, (c.resume now w (.error b)).1 =
      { c with
        shown :=
          { c.shown with
            phase := .error
            searching
            error := some (Failure.ofBackend b) } }.publish := by
  cases w with
  | page ticket d =>
    cases hw
    exact ⟨c.shown.searching, by simp [resume, landPage, Except.mapError]⟩
  | found ticket =>
    cases hw
    exact ⟨false, by simp [resume, landSearch, Except.mapError, fail]⟩
  | _ => cases hw

/-- A reply that comes before 2⁶⁴ newer tickets are issued does nothing unless it answers the
newest. -/
theorem LateStep.catalog_of_overtaken (h : LateStep k s (.land e) t) (hr : LateReachable k s)
    (he : e.await.ticket?.isSome) (hn : s.tickets < e.ticket + 2 ^ 64)
    (ho : e.ticket < s.tickets) : t.catalog = s.catalog := by
  obtain ⟨hm, reply, _, _, hc⟩ := h.land_catalog
  obtain ⟨n, hw⟩ := Option.isSome_iff_exists.mp he
  rw [hc]
  refine Catalog.resume_stale s.now hw (fun hnew => ?_) reply
  have := (ticketed_lateReachable hr).ticket_of_newest hm hn (hnew ▸ hw)
  omega

theorem LateStep.catalog_of_old (h : LateStep k s (.land e) t) (hr : LateReachable k s)
    (he : e.await.ticket?.isSome) (hn : s.tickets < 2 ^ 64) (ho : e.ticket < s.tickets) :
    t.catalog = s.catalog :=
  h.catalog_of_overtaken hr he (by omega) ho

/-- A reply to a load or a search that does not answer the newest ticket changes nothing. One that
answers it with an error changes only that the request is shown as failed. And while fewer than 2⁶⁴
tickets are issued, no reply to an earlier ticket changes anything from then on. -/
theorem overtaken_replies_dropped (hr : LateReachable k s) (h : LateStep k s (.land e) t)
    (hw : e.await.ticket? = some n) :
    (n ≠ s.catalog.newest → t.catalog = s.catalog) ∧
    (n = s.catalog.newest → ∀ b, e.fault? = some b → ∃ searching, t.catalog =
      { s.catalog with
        shown :=
          { s.catalog.shown with
            phase := .error
            searching
            error := some (Failure.ofBackend b) } }.publish) ∧
    ∀ u e' v, Relation.ReflTransGen (Leads k) t u → u.tickets < 2 ^ 64 →
      LateStep k u (.land e') v → e'.await.ticket?.isSome → e'.ticket < e.ticket →
      v.catalog = u.catalog := by
  obtain ⟨hm, reply, _, ha, hc⟩ := h.land_catalog
  refine ⟨fun hn => ?_, ?_, ?_⟩
  · rw [hc]
    exact Catalog.resume_stale s.now hw hn reply
  · rintro rfl b hb
    obtain ⟨searching, hf⟩ := Catalog.resume_failed s.now hw b
    obtain ⟨_, hb⟩ := Errand.answer_of_fault? hb
    rw [ha] at hb
    cases hb
    exact ⟨searching, hc.trans hf⟩
  · intro u e' v hu hlt h' hw' ho
    have hle := ((ticketed_lateReachable hr).le e hm).1
    have hst := h.tickets_le
    have htu := tickets_le_of_leads hu
    exact h'.catalog_of_old ((hr.step h).trans hu) hw' hlt (by omega)

/-- Two loads are under way. The second is answered first, and then the page of the first comes. -/
theorem overtaken_replies_dropped_page :
    ∃ s e t e' v, LateReachable (fun _ _ _ _ => True) s ∧
      LateStep (fun _ _ _ _ => True) s (.land e) t ∧ e.await.ticket? = some s.catalog.newest ∧
      t.catalog.shown.companions.map (·.id) = [2] ∧ t.tickets < 2 ^ 64 ∧
      LateStep (fun _ _ _ _ => True) t (.land e') v ∧ e'.await.ticket?.isSome ∧
      e'.ticket < e.ticket ∧ v.receipts.length = 2 ∧ v.catalog = t.catalog := by
  have h := (LateReachable.fresh (fun _ _ _ _ => True) ∅).step (.step (.start _ (.load {})))
  have h := h.step (.step (.start _ (.setSort .recent)))
  have h := h.step (.step (@Step.answer _ _ [] [_] _
    (.ok (⟨[{ id := 1, name := "Ann" }], 1, 0, 0⟩ : Page)) ∅ rfl rfl trivial))
  have h := h.step (.step (@Step.answer _ _ [_] [] _
    (.ok (⟨[{ id := 2, name := "Bob" }], 1, 0, 0⟩ : Page)) ∅ rfl rfl trivial))
  refine ⟨_, _, _, _, _, h, @LateStep.land _ _ [_] [] _ _ _ rfl rfl, rfl, by decide +kernel,
    by decide, @LateStep.land _ _ [] [] _ _ _ rfl rfl, rfl, by decide, rfl, ?_⟩
  exact (overtaken_replies_dropped h (@LateStep.land _ _ [_] [] _ _ _ rfl rfl) rfl).2.2 _ _ _
    .refl (by decide) (@LateStep.land _ _ [] [] _ _ _ rfl rfl) rfl (by decide)

end Companions
