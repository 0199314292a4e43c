import Companions.Catalog.Follower
import Mathlib.Data.List.Nodup
import Mathlib.Logic.Function.Iterate

/-! What a change of the visiting session does to the desk of a follower. Other listeners may change
the session in turn; once the outermost change is over, the follower has heard of each one. -/
namespace Companions

/-- A reaction that does not write to the shared memory and does not end a subscription. -/
inductive Reaction.Apart {σ : Type} (id : Nat) : Reaction σ → Prop
  | done : Apart id .done
  | enter {v : Session} {next : Reaction σ} (h : Apart id next) : Apart id (.enter v next)
  | leave {next : Reaction σ} (h : Apart id next) : Apart id (.leave next)
  | subscribe {l : Session → Reaction σ} {next : Nat → Reaction σ} (hl : ∀ v, Apart id (l v))
      (h : ∀ n, Apart id (next n)) : Apart id (.subscribe l next)
  | unsubscribe {n : Nat} {next : Reaction σ} (hn : n ≠ id) (h : Apart id next) :
      Apart id (.unsubscribe n next)
  | read {next : Session → Reaction σ} (h : ∀ v, Apart id (next v)) : Apart id (.read next)
  | memory {next : σ → Reaction σ} (h : ∀ m, Apart id (next m)) : Apart id (.recall next)

/-- Each listener of a change is called once, in some order. -/
def SessionStore.Calling.Fair {σ : Type} (c : SessionStore.Calling σ) : Prop :=
  ∀ ls, (c.arrange ls).Perm ls

namespace SessionStore

variable {σ : Type} {s : SessionStore σ}

/-- Subscriptions have different numbers, and the next number is that of none. -/
structure Numbered (s : SessionStore σ) : Prop where
  nodup : (s.listeners.map (·.1)).Nodup
  lt : ∀ l ∈ s.listeners, l.1 < s.nextId

/-- A new subscription has a number of its own. -/
theorem Numbered.subscribe (h : Numbered s) (l : Listener σ) : Numbered (s.subscribe l).2 := by
  refine ⟨?_, ?_⟩
  · simp only [SessionStore.subscribe, List.map_append, List.map_cons, List.map_nil]
    refine List.nodup_append.mpr ⟨h.nodup, by simp, ?_⟩
    intro x hx y hy
    obtain ⟨l', hl', rfl⟩ := List.mem_map.mp hx
    rw [List.mem_singleton.mp hy]
    exact Nat.ne_of_lt (h.lt l' hl')
  · intro l' hl'
    simp only [SessionStore.subscribe, List.mem_append, List.mem_singleton] at hl' ⊢
    rcases hl' with hl' | rfl
    · have := h.lt l' hl'
      omega
    · exact Nat.lt_succ_self _

theorem Numbered.unsubscribe (h : Numbered s) (id : Nat) : Numbered (s.unsubscribe id) := by
  have hsub : (s.unsubscribe id).listeners.Sublist s.listeners := List.filter_sublist
  exact ⟨h.nodup.sublist (hsub.map _), fun l hl => h.lt l (hsub.subset hl)⟩

end SessionStore

namespace Desk

variable {id m n : Nat} {s t u : SessionStore Desk} {v : Session} {now : Moment}
  {notify : SessionStore.Notify Desk} {c : SessionStore.Calling Desk}

/-- Either the follower's own listener, or one that keeps apart from it. -/
def Minds (id : Nat) (l : Nat × Listener Desk) : Prop :=
  l = (id, heed) ∨ l.1 ≠ id ∧ ∀ v, (l.2 v).Apart id

/-- The follower's subscription stands, and all other listeners keep apart from it. -/
structure Attached (id : Nat) (s : SessionStore Desk) : Prop where
  heeds : (id, heed) ∈ s.listeners
  nodup : (s.listeners.map (·.1)).Nodup
  lt : ∀ l ∈ s.listeners, l.1 < s.nextId
  minds : ∀ l ∈ s.listeners, Minds id l

/-- No follower is attached, and no listener meddles with the next one. -/
structure Vacant (s : SessionStore Desk) : Prop where
  follower : s.memory.follower = none
  nodup : (s.listeners.map (·.1)).Nodup
  lt : ∀ l ∈ s.listeners, l.1 < s.nextId
  apart : ∀ l ∈ s.listeners, ∀ v, (l.2 v).Apart s.nextId

/-- From one state of the store to another the session was replaced `n` times, and the follower
heard of `m` changes. -/
structure Heard (id m n : Nat) (s t : SessionStore Desk) : Prop where
  attached : Attached id t
  memory : t.memory = sessionChanged^[m] s.memory
  sent : t.sent = s.sent + n
  session : n = 0 → t.session = s.session

theorem Vacant.attached_follow (h : Vacant s) : Attached s.nextId (follow s) := by
  have hf : follow s = { (s.subscribe heed).2 with
      memory := { s.memory with follower := some (s.nextId, {}) } } := by
    simp only [follow, SessionStore.subscribe, h.follower]
  obtain ⟨hn, hl⟩ := SessionStore.Numbered.subscribe ⟨h.nodup, h.lt⟩ heed
  rw [hf]
  refine ⟨by simp [SessionStore.subscribe], hn, hl, ?_⟩
  intro l hm
  simp only [SessionStore.subscribe, List.mem_append, List.mem_singleton] at hm
  rcases hm with hm | rfl
  · exact Or.inr ⟨Nat.ne_of_lt (h.lt l hm), h.apart l hm⟩
  · exact Or.inl rfl

theorem Heard.refl (h : Attached id s) : Heard id 0 0 s s := ⟨h, rfl, rfl, fun _ => rfl⟩

theorem Heard.trans {m' n' : Nat} (h : Heard id m n s t) (h' : Heard id m' n' t u) :
    Heard id (m + m') (n + n') s u := by
  refine ⟨h'.attached, ?_, ?_, ?_⟩
  · rw [h'.memory, h.memory, ← Function.iterate_add_apply, Nat.add_comm]
  · rw [h'.sent, h.sent, Nat.add_assoc]
  · intro hn
    exact (h'.session (by omega)).trans (h.session (by omega))

/-- A store that differs only in its listeners. -/
theorem Heard.listen {ls : List (Nat × Listener Desk)} {next : Nat}
    (h : Attached id { s with listeners := ls, nextId := next }) :
    Heard id 0 0 s { s with listeners := ls, nextId := next } :=
  ⟨h, rfl, rfl, fun _ => rfl⟩

theorem Attached.subscribe {l : Listener Desk} (h : Attached id s)
    (hl : ∀ v, (l v).Apart id) : Attached id (s.subscribe l).2 := by
  obtain ⟨hn, hlt⟩ := SessionStore.Numbered.subscribe ⟨h.nodup, h.lt⟩ l
  refine ⟨List.mem_append_left _ h.heeds, hn, hlt, ?_⟩
  intro l' hm
  simp only [SessionStore.subscribe, List.mem_append, List.mem_singleton] at hm
  rcases hm with hm | rfl
  · exact h.minds l' hm
  · exact Or.inr ⟨Nat.ne_of_gt (h.lt _ h.heeds), hl⟩

theorem Attached.unsubscribe (h : Attached id s) (hn : n ≠ id) : Attached id (s.unsubscribe n) := by
  obtain ⟨hnodup, hlt⟩ := SessionStore.Numbered.unsubscribe ⟨h.nodup, h.lt⟩ n
  refine ⟨List.mem_filter.mpr ⟨h.heeds, ?_⟩, hnodup, hlt, fun l hl => ?_⟩
  · simpa using Ne.symm hn
  · exact h.minds l (List.mem_filter.mp hl).1

theorem Attached.replace (h : Attached id s) (v : Session) : Attached id (s.replace v) :=
  ⟨h.heeds, h.nodup, h.lt, h.minds⟩

/-- Whoever is called for a change passes it on to the follower, once in all. -/
def Tells (id : Nat) (notify : SessionStore.Notify Desk) : Prop :=
  ∀ v s t, Attached id s → notify v s = some t → ∃ n, Heard id (n + 1) n s t

/-- The session is replaced, and then all listeners are told. -/
theorem Tells.replace (hn : Tells id notify) (h : Attached id s)
    (he : notify v (s.replace v) = some t) : ∃ n, Heard id (n + 1) (n + 1) s t := by
  obtain ⟨n, hh⟩ := hn v _ t (h.replace v) he
  refine ⟨n, hh.attached, hh.memory, ?_, fun hz => by omega⟩
  rw [hh.sent]
  simp only [SessionStore.replace]
  omega

theorem Tells.enterWith (hn : Tells id notify) (h : Attached id s)
    (he : s.enterWith notify now v = some t) : ∃ n, Heard id (n + 1) (n + 1) s t :=
  hn.replace h he

theorem Tells.leaveWith (hn : Tells id notify) (h : Attached id s)
    (he : s.leaveWith notify = some t) : ∃ n, Heard id n n s t := by
  unfold SessionStore.leaveWith at he
  split at he
  · obtain ⟨n, hh⟩ := hn.replace h he
    exact ⟨n + 1, hh⟩
  · cases he
    exact ⟨0, .refl h⟩

/-- A reaction apart from the follower makes it hear of just the changes it makes. -/
theorem Tells.perform (hn : Tells id notify) {r : Reaction Desk} (hr : r.Apart id) :
    ∀ {s t : SessionStore Desk}, Attached id s → SessionStore.perform notify now r s = some t →
      ∃ n, Heard id n n s t := by
  induction hr with
  | done =>
    intro s t h he
    cases he
    exact ⟨0, .refl h⟩
  | enter _ ih =>
    intro s t h he
    obtain ⟨u, hu, he⟩ := Option.bind_eq_some_iff.mp he
    obtain ⟨n, hh⟩ := hn.enterWith h hu
    obtain ⟨n', hh'⟩ := ih hh.attached he
    exact ⟨n + 1 + n', hh.trans hh'⟩
  | leave _ ih =>
    intro s t h he
    obtain ⟨u, hu, he⟩ := Option.bind_eq_some_iff.mp he
    obtain ⟨n, hh⟩ := hn.leaveWith h hu
    obtain ⟨n', hh'⟩ := ih hh.attached he
    exact ⟨n + n', hh.trans hh'⟩
  | subscribe hl _ _ ih =>
    intro s t h he
    have ha := h.subscribe hl
    obtain ⟨n, hh⟩ := ih _ ha he
    exact ⟨0 + n, (Heard.listen ha).trans hh⟩
  | unsubscribe hne _ ih =>
    intro s t h he
    have ha := h.unsubscribe hne
    obtain ⟨n, hh⟩ := ih ha he
    exact ⟨0 + n, (Heard.listen ha).trans hh⟩
  | read _ ih => exact fun h he => ih _ h he
  | memory _ ih => exact fun h he => ih _ h he

/-- The follower's own reaction. -/
theorem heard_heed (h : Attached id s)
    (he : SessionStore.perform notify now (heed v) s = some t) : Heard id 1 0 s t := by
  cases he
  exact ⟨⟨h.heeds, h.nodup, h.lt, h.minds⟩, rfl, rfl, fun _ => rfl⟩

theorem Tells.foldlM (hn : Tells id notify) {ls : List (Nat × Listener Desk)}
    (hl : ∀ l ∈ ls, Minds id l) :
    ∀ {s t : SessionStore Desk}, Attached id s →
      ls.foldlM (fun s l => SessionStore.perform notify now (l.2 v) s) s = some t →
      ∃ n, Heard id (n + (ls.map (·.1)).count id) n s t := by
  induction ls with
  | nil =>
    intro s t h he
    cases he
    exact ⟨0, .refl h⟩
  | cons l ls ih =>
    intro s t h he
    rw [List.foldlM_cons] at he
    obtain ⟨u, hu, hrest⟩ := Option.bind_eq_some_iff.mp he
    rcases hl l (List.mem_cons_self ..) with rfl | ⟨hne, ha⟩
    · have hh := heard_heed (v := v) h hu
      obtain ⟨n, hh'⟩ := ih (fun l' hl' => hl l' (List.mem_cons_of_mem _ hl')) hh.attached hrest
      refine ⟨n, ?_⟩
      have := hh.trans hh'
      simpa [Nat.add_comm, Nat.add_left_comm] using this
    · obtain ⟨n, hh⟩ := hn.perform (ha v) h hu
      obtain ⟨n', hh'⟩ := ih (fun l' hl' => hl l' (List.mem_cons_of_mem _ hl')) hh.attached hrest
      refine ⟨n + n', ?_⟩
      have := hh.trans hh'
      simpa [hne, Nat.add_assoc] using this

/-- However deep the changes made by listeners are nested, each change is told once. -/
theorem tells_notify (hc : c.Fair) (depth : Nat) : Tells id (SessionStore.notify c depth) := by
  induction depth with
  | zero =>
    intro v s t _ he
    cases he
  | succ depth ih =>
    intro v s t h he
    have hp := hc s.listeners
    obtain ⟨n, hh⟩ := ih.foldlM (fun l hl => h.minds l (hp.subset hl)) h he
    have hone : ((c.arrange s.listeners).map (·.1)).count id = 1 := by
      rw [(hp.map _).count_eq]
      exact List.count_eq_one_of_mem h.nodup (List.mem_map_of_mem h.heeds)
    rw [hone] at hh
    exact ⟨n, hh⟩

/-- A visit starts, with whatever follows from it. -/
theorem heard_enter (hc : c.Fair) {depth : Nat} (h : Attached id s)
    (he : SessionStore.enter c depth v s = some t) : ∃ n, Heard id (n + 1) (n + 1) s t :=
  (tells_notify hc depth).enterWith h he

theorem heard_leave (hc : c.Fair) {depth : Nat} (h : Attached id s)
    (he : SessionStore.leave c depth s = some t) : ∃ n, Heard id n n s t :=
  (tells_notify hc depth).leaveWith h he

end Desk
end Companions
