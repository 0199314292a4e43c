import Companions.Proofs.Loading
import Companions.Proofs.PendingToggles

/-! How long a failure stays on show. It is meant to stay until the next load or search starts, but
the list that was asked for before the failure takes it away. -/
namespace Companions

variable {k : Conduct} {s t u : Traffic} {a : Event} {e : Errand} {f : Failure} {answered : Bool}

/-- The failure that an event brings on show: of a toggle, or of the newest load or search. -/
def Event.failure? (s : Traffic) : Event → Option Failure
  | .land e =>
    if e.await.ticket? = some s.catalog.newest ∨ e.await.favorite?.isSome then
      e.fault?.map Failure.ofBackend
    else none
  | _ => none

/-- Whether an event brings the list on show that was asked for last. -/
def Event.answers (s : Traffic) : Event → Bool
  | .land e => e.await.ticket? = some s.catalog.newest && e.fault?.isNone
  | _ => false

/-- The failure on show is the one that the event brings, or the one from before if the list that
was asked for last has not come. -/
def Bears (s : Traffic) (a : Event) (t : Traffic) : Prop :=
  t.catalog.shown.error = if a.answers s then none else (a.failure? s).or s.catalog.shown.error

theorem Bears.still (ha : a.answers s = false) (hf : a.failure? s = none)
    (he : t.catalog.shown.error = s.catalog.shown.error) : Bears s a t := by
  simp [Bears, ha, hf, he]

theorem Errand.fault?_ok {x : e.await.Answer} {taken : Finset Int64}
    (h : e.answer = some (.ok x, taken)) : e.fault? = none := by
  simp [fault?, h]

theorem Errand.fault?_error {b : BackendError} {taken : Finset Int64}
    (h : e.answer = some (.error b, taken)) : e.fault? = some b := by
  simp [fault?, h]

theorem Await.page?_ok {w : Await} {n : UInt64} (hw : w.ticket? = some n) (x : w.Answer) :
    w.page? (.ok x) ≠ none := by
  cases w with
  | page | found => exact Option.some_ne_none _
  | _ => cases hw

/-- The reply to a load or a search arrives. -/
theorem Bears.ticketed {n : UInt64} (h : LateStep k s (.land e) t) (hw : e.await.ticket? = some n) :
    Bears s (.land e) t := by
  obtain ⟨_, reply, _, ha, hc⟩ := h.land_catalog
  have hfav : e.await.favorite?.isSome = false := by
    cases he : e.await <;> simp [he, Await.ticket?] at hw <;> rfl
  by_cases hn : n = s.catalog.newest
  · subst hn
    cases reply with
    | error b =>
      obtain ⟨_, hs⟩ := Catalog.resume_failed s.now hw b
      rw [hs] at hc
      simp [Bears, hc, Event.answers, Event.failure?, hw, Errand.fault?_error ha, Catalog.publish]
    | ok x =>
      have hl := (Catalog.resume_landed s.now hw (.ok x) s.catalog).1
      have hshown : t.catalog.shown.error = none := by
        rw [hc]
        generalize (s.catalog.resume s.now e.await (.ok x)).1 = c at hl
        cases hl with
        | stale hne => exact absurd rfl hne
        | failed _ hp => exact absurd hp (Await.page?_ok hw x)
        | shown => rfl
      simp [Bears, hshown, Event.answers, hw, Errand.fault?_ok ha]
  · rw [Catalog.resume_stale s.now hw hn reply] at hc
    refine .still ?_ ?_ (by rw [hc])
    · simp [Event.answers, hw, hn]
    · simp [Event.failure?, hw, hn, hfav]

theorem LateStep.bears (h : LateStep k s a t) (hr : LateReachable k s)
    (hn : t.tickets = s.tickets) : Bears s a t := by
  cases a with
  | land e =>
    cases hw : e.await.ticket? with
    | some n => exact .ticketed h hw
    | none =>
      have hans : (Event.land e).answers s = false := by simp [Event.answers, hw]
      obtain ⟨xs, ys, reply, taken, hs, ha, rfl⟩ := h.landed
      obtain ⟨r, w, answer, ticket, epoch, before⟩ := e
      simp only at reply ha hw
      subst ha
      cases w with
      | page n d => cases hw
      | found n => cases hw
      | favorite id =>
        obtain ⟨hm, _⟩ := h.land_catalog
        obtain ⟨toggle, ht⟩ := Option.ne_none_iff_exists'.mp
          ((engaged_lateReachable hr).pendingFor?_ne_none hm rfl)
        cases reply with
        | ok x =>
          refine .still hans rfl ?_
          simp only [Traffic.land, Traffic.proceed, Catalog.resume, Catalog.settleToggle_ok ht]
          rfl
        | error b =>
          simp only [Bears, Traffic.land, Traffic.proceed, Catalog.resume,
            Catalog.settleToggle_error ht, hans]
          rfl
      | order =>
        cases reply with
        | ok x => exact absurd hn (Nat.succ_ne_self _)
        | error b => exact .still rfl rfl rfl
      | receipt => exact .still rfl rfl rfl
  | start op =>
    cases h with
    | step h =>
      cases h.move with
      | seek => exact absurd hn (Nat.succ_ne_self _)
      | _ => exact .still rfl rfl rfl
  | _ =>
    cases h with
    | step h => cases h; exact .still rfl rfl rfl

/-- Whoever watches has been sent what is on show. -/
def Announced (s : Traffic) : Prop := s.catalog.published = s.catalog.shown

theorem Announced.seek {q : Quest} (ho : s.catalog.Offers q) : Announced (s.seek q) := by
  have hs := Traffic.seek_sought ho
  generalize s.seek q = t at hs
  cases hs <;> rfl

theorem Announced.landing (h : Announced s) (hl : LateLanding s e t) : Announced t := by
  obtain ⟨_, _, hl⟩ := hl
  cases hl with
  | stale => exact h
  | failed => rfl
  | shown => rfl

theorem announced_initial (h : s.Initial) : Announced s := by
  obtain ⟨_, _, _, _, _, _, rfl⟩ := h
  rfl

theorem announced_lateStep (h : Announced s) (hs : LateStep k s a t) : Announced t := by
  rcases hs.step_or_landing with hs | ⟨e, rfl, hl⟩
  · cases hs.move with
    | @seek _ _ f _ ho => exact Announced.seek (s := s.leaving f) ho
    | toggle => rfl
    | land hx _ _ hw hl => exact h.landing (.mk hx hw hl)
    | confirm => rfl
    | rollBack => rfl
    | reorder => exact Announced.seek (Catalog.offers_of_load rfl)
    | _ => exact h
  · exact h.landing hl

theorem announced_lateReachable (h : LateReachable k s) : Announced s :=
  h.invariant (fun _ => announced_initial) fun _ _ _ => announced_lateStep

/-- A run in which no load or search starts and no failure comes on show. It is `answered` if the
list that was asked for last has come. -/
inductive Lull (k : Conduct) : Traffic → Bool → Traffic → Prop
  | refl (s : Traffic) : Lull k s false s
  | step {s t u : Traffic} {a : Event} {answered : Bool} (h : Lull k s answered t)
      (hs : LateStep k t a u) (hn : u.tickets = t.tickets) (hf : a.failure? t = none) :
      Lull k s (answered || a.answers t) u

theorem Lull.reachable (h : Lull k s answered t) (hr : LateReachable k s) : LateReachable k t := by
  induction h with
  | refl => exact hr
  | step _ hs _ _ ih => exact ih.step hs

theorem Lull.error (h : Lull k s answered t) (hr : LateReachable k s)
    (hf : s.catalog.shown.error = some f) :
    t.catalog.shown.error = if answered then none else some f := by
  induction h with
  | refl => exact hf
  | @step t u a answered hl hs hn hnone ih =>
    rw [hs.bears (hl.reachable hr) hn, hnone, ih]
    cases a.answers t <;> cases answered <;> rfl

/-- Whatever answers the newest ticket was under way. -/
theorem LateStep.awaited_of_answers (h : LateStep k s a t) (hr : LateReachable k s)
    (ha : a.answers s = true) (hlt : s.tickets < 2 ^ 64) : s.Awaited := by
  cases a with
  | land e =>
    obtain ⟨hm, _⟩ := h.land_catalog
    simp only [Event.answers, Bool.and_eq_true, decide_eq_true_eq] at ha
    obtain ⟨b, hb, _⟩ := Errand.seeks?_of_ticket? ha.1
    have hn := (ticketed_lateReachable hr).holds_newest hm ha.1 hlt
    exact ⟨b, List.mem_filterMap.mpr ⟨e, hm, hn ▸ hb⟩⟩
  | _ => cases ha

/-- Where nothing loads, nothing is answered. -/
theorem Lull.not_answered (h : Lull k s answered t) (hr : LateReachable k s)
    (hlt : s.tickets < 2 ^ 64) (hp : s.catalog.shown.phase ≠ .loading) :
    t.tickets = s.tickets ∧ t.catalog.shown.phase ≠ .loading ∧ answered = false := by
  induction h with
  | refl => exact ⟨rfl, hp, rfl⟩
  | @step t u a answered hl hs hn _ ih =>
    obtain ⟨hsame, hphase, hans⟩ := ih
    have ht := hl.reachable hr
    have hp := phased_lateReachable ht
    have hk := hs.pursues (ticketed_lateReachable ht) hp.single
    refine ⟨hn.trans hsame, fun hload => hphase (hk.loading hn hload), ?_⟩
    rw [hans, Bool.false_or, ← Bool.not_eq_true]
    intro ha
    have hawait := hs.awaited_of_answers ht ha (hsame ▸ hlt)
    exact hphase (hp.awaited (hsame ▸ hlt) (Or.inl hawait))

/-- Until a load or a search starts or another failure takes its place, a failure stays on show, and
is sent to whoever watches, just as long as the list that was asked for last does not come. While
fewer than 2⁶⁴ tickets are issued, that list can come only if something was loading when the failure
came on show: the failure of a load or a search stays. -/
theorem failure_on_show (hr : LateReachable k s) (hf : s.catalog.shown.error = some f)
    (h : Lull k s answered t) :
    t.catalog.shown.error = (if answered then none else some f) ∧
      t.catalog.published.error = t.catalog.shown.error ∧
      (s.tickets < 2 ^ 64 → answered = true → s.catalog.shown.phase = .loading) := by
  refine ⟨h.error hr hf, ?_, fun hlt ha => ?_⟩
  · rw [announced_lateReachable (h.reachable hr)]
  · by_contra hp
    rw [(h.not_answered hr hlt hp).2.2] at ha
    cases ha

/-- A reload fails while Ann's toggle waits for its answer, and then the toggle is confirmed. -/
theorem failure_on_show_toggle_confirmed :
    ∃ s t, LateReachable (fun _ _ _ _ => True) s ∧ Lull (fun _ _ _ _ => True) s false t ∧
      s.catalog.pending.map (·.id) = [1] ∧ t.catalog.pending.map (·.id) = [] ∧
      s.catalog.shown.error = some (Failure.ofBackend (.timeout 20)) ∧
      t.catalog.shown.error = some (Failure.ofBackend (.timeout 20)) ∧
      t.catalog.published.error = t.catalog.shown.error := by
  have h := (LateReachable.fresh (fun _ _ _ _ => True) ∅).step (.step (.start _ (.load {})))
  have h := h.step (.step (@Step.answer _ _ [] [] _
    (.ok (⟨[{ id := 1, name := "Ann" }], 1, 0, 0⟩ : Page)) ∅ rfl rfl trivial))
  have h := h.step (@LateStep.land _ _ [] [] _ _ _ rfl rfl)
  have h := h.step (.step (.start _ (.toggle 1)))
  have h := h.step (.step (.start _ .reload))
  have h := h.step (.step (@Step.answer _ _ [_] [] _ (.error (.timeout 20)) ∅ rfl rfl trivial))
  have h := h.step (@LateStep.land _ _ [_] [] _ _ _ rfl rfl)
  have still {s : Traffic} (_ : LateReachable (fun _ _ _ _ => True) s) :
      Lull (fun _ _ _ _ => True) s false s := .refl s
  have hl := (still h).step (.step (@Step.answer _ _ [] [] _
    (.ok (some ({ companionId := 1 } : Favorite))) {1} rfl rfl trivial)) rfl rfl
  have hl := hl.step (@LateStep.land _ _ [] [] _ _ _ rfl rfl) rfl rfl
  obtain ⟨herror, hsent, _⟩ := failure_on_show h rfl hl
  exact ⟨_, _, h, hl, by decide +kernel, by decide +kernel, rfl, herror, hsent⟩

/-- Ann's toggle fails while the list is reloaded, and the page that comes then takes the failure
from show. -/
theorem page_hides_failure :
    ∃ s t e, Reachable (fun _ _ _ _ => True) s ∧
      s.catalog.shown.error = some (Failure.ofBackend (.timeout 20)) ∧
      Step (fun _ _ _ _ => True) s (.land e) t ∧ t.tickets = s.tickets ∧
      (Event.land e).failure? s = none ∧ t.catalog.shown.error = none := by
  have h := (Reachable.fresh (fun _ _ _ _ => True) ∅).step (.start _ (.load {}))
  have h := h.step (@Step.answer _ _ [] [] _
    (.ok (⟨[{ id := 1, name := "Ann" }], 1, 0, 0⟩ : Page)) ∅ rfl rfl trivial)
  have h := h.step (@Step.land _ _ [] [] _ _ _ rfl rfl fun _ => ⟨by decide, by decide⟩)
  have h := h.step (.start _ (.toggle 1))
  have h := h.step (.start _ .reload)
  have h := h.step (@Step.answer _ _ [] [_] _ (.error (.timeout 20)) ∅ rfl rfl trivial)
  have h := h.step (@Step.land _ _ [] [_] _ _ _ rfl rfl fun hw => by cases hw)
  have h := h.step (@Step.answer _ _ [] [] _
    (.ok (⟨[{ id := 1, name := "Ann" }], 1, 0, 0⟩ : Page)) ∅ rfl rfl trivial)
  exact ⟨_, _, _, h, rfl,
    @Step.land _ _ [] [] _ _ _ rfl rfl fun _ => ⟨by decide, by decide⟩, rfl, rfl, rfl⟩

end Companions
