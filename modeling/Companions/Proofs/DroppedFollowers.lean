import Companions.Proofs.Loading
import Companions.Proofs.Visit

/-! A catalog in traffic while any number of followers come and go. A follower that is dropped takes
the reload it has under way with it: its task never runs on, and the reply never arrives. -/
namespace Companions

/-- A follower's task, and the reload it is in. -/
structure Attendant where
  follower : Follower := {}
  reload : Reload := .idle

namespace Attendant

/-- The task comes to wait for a call. -/
def rest (f : Attendant) : Attendant :=
  { follower := f.follower.finish.2, reload := if f.follower.finish.1 then .due else .idle }

/-- The ticket of the reload under way. -/
def ticket? (f : Attendant) : Option Nat :=
  match f.reload with
  | .underWay ticket => some ticket
  | .idle | .due => none

/-- The task has begun a reload, which is over at once if the cache has the page. -/
def reloading (before after : Traffic) (f : Attendant) : Attendant :=
  if after.errands.length = before.errands.length then f.rest
  else { f with reload := .underWay after.tickets }

theorem ticket?_rest (f : Attendant) : f.rest.ticket? = none := by
  simp only [rest, ticket?]
  split <;> rename_i h <;> split at h <;> first | rfl | cases h

end Attendant

structure Retinue where
  traffic : Traffic
  attendants : List Attendant := []
  /-- The tickets of the reloads that ended with their followers. -/
  abandoned : List Nat := []

namespace Retinue

variable {k : Conduct} {s t : Retinue} {u : Traffic} {a : Event} {fs gs : List Attendant}
  {f g : Attendant}

/-- The tickets of the reloads that these followers have under way. -/
def reloads (fs : List Attendant) : List Nat := fs.filterMap Attendant.ticket?

/-- Any operation may start, and any reply arrive but to a follower's reload. A change of the
session is heard by each follower's listener, which outdates the pages and calls the task. -/
inductive Step (k : Conduct) : Retinue → Retinue → Prop
  | traffic {s : Retinue} {a : Event} {t : Traffic} (h : LateStep k s.traffic a t)
      (hr : ∀ e, a = .land e → e.HasTicket → e.ticket ∉ reloads s.attendants) :
      Step k s { s with traffic := t }
  | attach (s : Retinue) : Step k s { s with attendants := s.attendants ++ [{}] }
  | hear {s : Retinue} {fs gs : List Attendant} {f : Attendant}
      (hs : s.attendants = fs ++ f :: gs) :
      Step k s
        { s with
          traffic :=
            { s.traffic with
              catalog := s.traffic.catalog.outdate
              epochs := s.traffic.epochs + 1 }
          attendants := fs ++ { f with follower := f.follower.call } :: gs }
  | arrive {s : Retinue} {fs gs : List Attendant} {f : Attendant}
      (hs : s.attendants = fs ++ f :: gs) (hf : f.follower.stage = .starting) :
      Step k s { s with attendants := fs ++ f.rest :: gs }
  | wake {s : Retinue} {fs gs : List Attendant} {f : Attendant}
      (hs : s.attendants = fs ++ f :: gs) (hf : f.follower.stage = .called) :
      Step k s { s with attendants := fs ++ ⟨f.follower.run, .due⟩ :: gs }
  | begin {s : Retinue} {fs gs : List Attendant} {f : Attendant}
      (hs : s.attendants = fs ++ f :: gs) (hf : f.reload = .due) :
      Step k s
        { s with
          traffic := s.traffic.start .reload
          attendants := fs ++ f.reloading s.traffic (s.traffic.start .reload) :: gs }
  | finish {s : Retinue} {fs gs : List Attendant} {f : Attendant} {e : Errand} {t : Traffic}
      (hs : s.attendants = fs ++ f :: gs) (hf : f.reload = .underWay e.ticket) (he : e.HasTicket)
      (h : LateStep k s.traffic (.land e) t) :
      Step k s { s with traffic := t, attendants := fs ++ f.rest :: gs }
  /-- A follower is dropped between its reloads. -/
  | dismiss {s : Retinue} {fs gs : List Attendant} {f : Attendant}
      (hs : s.attendants = fs ++ f :: gs) (hf : f.ticket? = none) :
      Step k s { s with attendants := fs ++ gs }
  /-- A follower is dropped while its reload is under way. -/
  | abandon {s : Retinue} {fs gs : List Attendant} {f : Attendant} {xs ys : List Errand}
      {e : Errand} (hs : s.attendants = fs ++ f :: gs) (hf : f.reload = .underWay e.ticket)
      (hx : s.traffic.errands = xs ++ e :: ys) (he : e.HasTicket) :
      Step k s
        { traffic := { s.traffic with errands := xs ++ ys }
          attendants := fs ++ gs
          abandoned := e.ticket :: s.abandoned }

inductive Reachable (k : Conduct) : Retinue → Prop
  | initial {t : Traffic} (h : t.Initial) : Reachable k { traffic := t }
  | step {s t : Retinue} (h : Reachable k s) (hs : Step k s t) : Reachable k t

/-- Each reload of a follower is under way with a ticket of its own, and shows in the phase as long
as that is the newest. -/
structure Attended (s : Retinue) : Prop where
  ticketed : Ticketed s.traffic
  phased : Phased (s.traffic.tickets ∈ s.abandoned) s.traffic
  past : ∀ n ∈ s.abandoned, n ≤ s.traffic.tickets
  nodup : (reloads s.attendants).Nodup
  sought : ∀ n ∈ reloads s.attendants, (n, false) ∈ s.traffic.sought

theorem Attended.reloads_le (h : Attended s) {n : Nat} (hn : n ∈ reloads s.attendants) :
    n ≤ s.traffic.tickets :=
  h.ticketed.sought_le (h.sought n hn)

/-- The catalog takes a step of its own. -/
theorem Attended.advance (h : Attended s) (hs : LateStep k s.traffic a u)
    (hn : (reloads fs).Nodup) (hf : ∀ n ∈ reloads fs, (n, false) ∈ u.sought) :
    Attended { s with traffic := u, attendants := fs } := by
  have hle := hs.tickets_le
  refine ⟨ticketed_lateStep h.ticketed hs, ?_, fun n hm => (h.past n hm).trans hle, hn, hf⟩
  refine (phased_lateStep h.phased h.ticketed hs).congr ?_
  constructor
  · rintro ⟨hlost, hsame⟩
    rw [hsame]
    exact hlost
  · intro hlost
    have hsame : u.tickets = s.traffic.tickets := le_antisymm (h.past _ hlost) hle
    exact ⟨hsame ▸ hlost, hsame⟩

/-- Some followers go on without a reload, and others are gone. -/
theorem Attended.release (h : Attended s) (hsub : (reloads fs).Sublist (reloads s.attendants)) :
    Attended { s with attendants := fs } :=
  { h with
    nodup := h.nodup.sublist hsub
    sought := fun n hn => h.sought n (hsub.subset hn) }

theorem reloads_split (hs : s.attendants = fs ++ f :: gs) :
    reloads s.attendants = reloads fs ++ (f.ticket?.toList ++ reloads gs) := by
  rw [hs, reloads, List.filterMap_append, List.filterMap_cons]
  cases f.ticket? <;> rfl

theorem reloads_replace (hf : g.ticket? = none) :
    reloads (fs ++ g :: gs) = reloads fs ++ reloads gs := by
  rw [reloads, List.filterMap_append, List.filterMap_cons, hf]
  rfl

theorem reloads_sublist (hs : s.attendants = fs ++ f :: gs) :
    (reloads fs ++ reloads gs).Sublist (reloads s.attendants) := by
  rw [reloads_split hs]
  exact (List.Sublist.refl _).append (List.sublist_append_right _ _)

/-- A reload takes a new ticket, and a request for its page is sent or none. -/
theorem start_reload_sought (s : Traffic) :
    (s.start .reload).tickets = s.tickets + 1 ∧
      ((s.start .reload).errands.length = s.errands.length ∧
          (s.start .reload).sought = s.sought ∨
        (s.start .reload).errands.length ≠ s.errands.length ∧
          (s.start .reload).sought = s.sought ++ [(s.tickets + 1, false)]) := by
  have hs : s.start .reload = s.seek ⟨s.catalog.shown.descriptor, false⟩ := rfl
  have hk := Traffic.seek_sought (s := s) (q := ⟨s.catalog.shown.descriptor, false⟩)
    (Catalog.offers_of_load rfl)
  rw [hs]
  generalize s.seek ⟨s.catalog.shown.descriptor, false⟩ = t at hk
  cases hk with
  | hit => exact ⟨rfl, Or.inl ⟨rfl, rfl⟩⟩
  | ask =>
    refine ⟨rfl, Or.inr ⟨by simp, ?_⟩⟩
    simp [Traffic.sought, Errand.seeks?, Catalog.awaitFor]

theorem attended_initial {t : Traffic} (h : t.Initial) : Attended { traffic := t } :=
  { ticketed := ticketed_initial h
    phased := (phased_initial h).congr (by simp)
    past := fun n hn => by cases hn
    nodup := .nil
    sought := fun n hn => by cases hn }

/-- A follower begins its reload. -/
theorem Attended.begin (h : Attended s) (hs : s.attendants = fs ++ f :: gs)
    (hf : f.ticket? = none) :
    Attended
      { s with
        traffic := s.traffic.start .reload
        attendants := fs ++ f.reloading s.traffic (s.traffic.start .reload) :: gs } := by
  obtain ⟨htick, hsought⟩ := start_reload_sought s.traffic
  have hnone : reloads s.attendants = reloads fs ++ reloads gs := by
    rw [reloads_split hs, hf]
    rfl
  have hnodup := h.nodup
  have hheld := h.sought
  have hle := fun n (hn : n ∈ reloads s.attendants) => h.reloads_le hn
  rw [hnone] at hnodup hheld hle
  unfold Attendant.reloading
  rcases hsought with ⟨hl, he⟩ | ⟨hl, he⟩
  · rw [if_pos hl]
    refine h.advance (k := fun _ _ _ _ => True) (.step (.start _ _)) ?_ ?_
    · rw [reloads_replace f.ticket?_rest]
      exact hnodup
    · rw [reloads_replace f.ticket?_rest, he]
      exact hheld
  · rw [if_neg hl, htick]
    -- The new ticket is beyond those of the other followers.
    have hnew : reloads (fs ++ { f with reload := .underWay (s.traffic.tickets + 1) } :: gs) =
        reloads fs ++ (s.traffic.tickets + 1) :: reloads gs := by
      simp [reloads, Attendant.ticket?]
    refine h.advance (k := fun _ _ _ _ => True) (.step (.start _ _)) ?_ ?_
    · rw [hnew]
      refine List.nodup_middle.mpr (List.nodup_cons.mpr ⟨fun hm => ?_, hnodup⟩)
      have := hle _ hm
      omega
    · intro n hm
      rw [he]
      rw [hnew] at hm
      rcases List.mem_cons.mp (List.perm_middle.subset hm) with rfl | hm
      · exact List.mem_append_right _ (List.mem_singleton_self _)
      · exact List.mem_append_left _ (hheld n hm)

/-- A follower's reload is under way, and none of the others has its ticket. -/
theorem Attended.others (h : Attended s) (hs : s.attendants = fs ++ f :: gs) {n : Nat}
    (hf : f.ticket? = some n) :
    (n, false) ∈ s.traffic.sought ∧ n ∉ reloads fs ++ reloads gs ∧
      (reloads fs ++ reloads gs).Nodup := by
  have hall : reloads s.attendants = reloads fs ++ n :: reloads gs := by
    rw [reloads_split hs, hf]
    rfl
  have hnodup := h.nodup
  rw [hall] at hnodup
  refine ⟨h.sought n ?_, List.nodup_cons.mp (List.nodup_middle.mp hnodup)⟩
  rw [hall]
  exact List.mem_append_right _ List.mem_cons_self

/-- The reload of a follower is answered. -/
theorem Attended.finish {e : Errand} (h : Attended s) (hs : s.attendants = fs ++ f :: gs)
    (hf : f.ticket? = some e.ticket) (hl : LateStep k s.traffic (.land e) u) :
    Attended { s with traffic := u, attendants := fs ++ f.rest :: gs } := by
  obtain ⟨_, hout, hnodup⟩ := h.others hs hf
  refine h.advance hl ?_ ?_
  · rw [reloads_replace f.ticket?_rest]
    exact hnodup
  · intro n hn
    rw [reloads_replace f.ticket?_rest] at hn
    refine (hl.pursues h.ticketed h.phased.single).mem (h.sought n ((reloads_sublist hs).subset hn))
      fun e' he' _ heq => hout ?_
    cases he'
    rw [heq]
    exact hn

/-- A follower is dropped with its reload. -/
theorem Attended.abandon {e : Errand} {xs ys : List Errand} (h : Attended s)
    (hs : s.attendants = fs ++ f :: gs) (hf : f.ticket? = some e.ticket)
    (hx : s.traffic.errands = xs ++ e :: ys) (he : e.HasTicket) :
    Attended
      { traffic := { s.traffic with errands := xs ++ ys }
        attendants := fs ++ gs
        abandoned := e.ticket :: s.abandoned } := by
  obtain ⟨hmem, hout, hnodup⟩ := h.others hs hf
  obtain ⟨n, hn⟩ := Option.isSome_iff_exists.mp he
  obtain ⟨b, hb, _⟩ := Errand.seeks?_of_ticket? hn
  have hin : (e.ticket, b) ∈ s.traffic.sought := List.mem_filterMap.mpr ⟨e, by simp [hx], hb⟩
  have heq : (e.ticket, b) = (e.ticket, false) :=
    List.inj_on_of_nodup_map h.phased.single hin hmem rfl
  have hl : Loses (e.ticket, false) s.traffic { s.traffic with errands := xs ++ ys } :=
    .of_errands h.phased.single hx (heq ▸ hb) rfl rfl
  have hreloads : reloads (fs ++ gs) = reloads fs ++ reloads gs := List.filterMap_append
  refine ⟨h.ticketed.drop hx, ?_, ?_, by rw [hreloads]; exact hnodup, ?_⟩
  · refine (h.phased.lose hl rfl rfl).congr ?_
    rw [List.mem_cons, or_comm, eq_comm]
  · intro m hm
    rcases List.mem_cons.mp hm with rfl | hm
    · exact h.ticketed.sought_le hmem
    · exact h.past m hm
  · intro m hm
    rw [hreloads] at hm
    refine (hl.rest _ (h.sought m ((reloads_sublist hs).subset hm))).mpr fun heq => hout ?_
    have heq : m = e.ticket := heq
    rw [← heq]
    exact hm

theorem attended_step (h : Attended s) (hs : Step k s t) : Attended t := by
  cases hs with
  | traffic hl hr =>
    refine h.advance hl h.nodup fun n hn => ?_
    refine (hl.pursues h.ticketed h.phased.single).mem (h.sought n hn) fun e ha he heq => ?_
    exact hr e ha he (heq ▸ hn)
  | attach => exact h.release (by simp [reloads, Attendant.ticket?])
  | @hear fs gs f hs =>
    have hcall : ({ f with follower := f.follower.call } : Attendant).ticket? = f.ticket? := rfl
    have hsame : reloads (fs ++ { f with follower := f.follower.call } :: gs) =
        reloads s.attendants := by
      rw [hs, reloads, reloads, List.filterMap_append, List.filterMap_append, List.filterMap_cons,
        List.filterMap_cons, hcall]
    refine h.advance (k := k) (.step (.outdate _)) (by rw [hsame]; exact h.nodup) fun n hn => ?_
    exact h.sought n (hsame ▸ hn)
  | @arrive fs gs f hs =>
    refine h.release ?_
    rw [reloads_replace f.ticket?_rest]
    exact reloads_sublist hs
  | wake hs =>
    refine h.release ?_
    rw [reloads_replace rfl]
    exact reloads_sublist hs
  | begin hs hf => exact h.begin hs (by simp [Attendant.ticket?, hf])
  | finish hs hf _ hl => exact h.finish hs (by simp [Attendant.ticket?, hf]) hl
  | dismiss hs =>
    refine h.release ?_
    rw [reloads, List.filterMap_append]
    exact reloads_sublist hs
  | abandon hs hf hx he => exact h.abandon hs (by simp [Attendant.ticket?, hf]) hx he

theorem attended_reachable (h : Reachable k s) : Attended s := by
  induction h with
  | initial h => exact attended_initial h
  | step _ hs ih => exact attended_step ih hs

/-- While the list is shown as loading, the newest request is under way, or it was the reload of a
follower that was dropped with it. Before 2⁶⁴ tickets are issued, the list is shown as loading in
just these cases, and as searching just while the newest request is a search that is under way. -/
theorem loading_under_way (h : Reachable k s) :
    (s.traffic.catalog.shown.phase = .loading →
      s.traffic.Awaited ∨ s.traffic.tickets ∈ s.abandoned) ∧
    (s.traffic.tickets < 2 ^ 64 →
      (s.traffic.Awaited ∨ s.traffic.tickets ∈ s.abandoned →
        s.traffic.catalog.shown.phase = .loading) ∧
      (s.traffic.catalog.shown.searching = true ↔
        s.traffic.catalog.shown.phase = .loading ∧ s.traffic.AwaitedSearch)) := by
  have hp := (attended_reachable h).phased
  refine ⟨hp.loading, fun hlt => ⟨hp.awaited hlt, ?_⟩⟩
  rw [hp.searching hlt]
  constructor
  · intro hs
    exact ⟨hp.awaited hlt (Or.inl ⟨true, hs⟩), hs⟩
  · intro hs
    exact hs.2

/-- A follower hears of a change of the session, begins its reload and is dropped. -/
def forsaken : Retinue where
  traffic :=
    let outdated : Traffic :=
      { Traffic.fresh ∅ with catalog := (Traffic.fresh ∅).catalog.outdate, epochs := 1 }
    { outdated.start .reload with errands := [] }
  abandoned := [1]

theorem reachable_forsaken (k : Conduct) : Reachable k forsaken := by
  have h : Reachable k { traffic := .fresh ∅ } := .initial (Traffic.initial_fresh ∅)
  have h := h.step (.attach _)
  have h := h.step (@Step.arrive _ _ [] [] _ rfl rfl)
  have h := h.step (@Step.hear _ _ [] [] _ rfl)
  have h := h.step (@Step.wake _ _ [] [] _ rfl rfl)
  have h := h.step (@Step.begin _ _ [] [] _ rfl rfl)
  exact h.step (@Step.abandon _ _ [] [] _ [] [] ⟨.query {} 50, .page 1 {}, none, 1, 1, ∅⟩
    rfl rfl rfl rfl)

/-- After that a search starts. -/
theorem loading_under_way_search :
    ∃ s, Reachable (fun _ _ _ _ => True) s ∧ s.abandoned = [1] ∧ s.traffic.tickets = 2 ∧
      s.traffic.AwaitedSearch ∧ s.traffic.catalog.shown.phase = .loading ∧
      s.traffic.catalog.shown.searching = true := by
  have h := (reachable_forsaken fun _ _ _ _ => True).step
    (.traffic (.step (.start _ (.search "a"))) fun _ hf => by cases hf)
  have hs := List.mem_singleton_self (2, true)
  have hp := ((loading_under_way h).2 (by decide)).1 (Or.inl ⟨true, hs⟩)
  exact ⟨_, h, rfl, rfl, hs, hp, ((loading_under_way h).2 (by decide)).2.mpr ⟨hp, hs⟩⟩

/-- Nothing is under way any longer when the follower is gone. -/
theorem loading_left_behind :
    ∃ s, Reachable (fun _ _ _ _ => True) s ∧ s.traffic.catalog.shown.phase = .loading ∧
      s.traffic.errands = [] ∧ ¬s.traffic.Awaited := by
  refine ⟨_, reachable_forsaken _, rfl, rfl, ?_⟩
  rintro ⟨_, hm⟩
  cases hm

end Retinue
end Companions
