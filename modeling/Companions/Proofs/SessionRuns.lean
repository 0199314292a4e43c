import Companions.Proofs.SessionChange
import Mathlib.Order.Nat

/-! Runs of a session store that come to an end, with a log of what was done to the store and who
was called. A run does without the bound on the depth of nested changes, and each change may be told in
an order of its own. -/
namespace Companions
namespace SessionStore

/-- What is done to a store, or a call that the store makes. -/
inductive Deed (σ : Type)
  /-- The `n`-th change starts a visit. -/
  | enter (n : Nat) (session : Session)
  /-- The `n`-th change ends the visit. -/
  | leave (n : Nat)
  /-- There is no visit to end. -/
  | idle
  | subscribe (l : Nat × Listener σ)
  | unsubscribe (id : Nat)
  /-- A listener is called for the `n`-th change. -/
  | call (n : Nat) (l : Nat × Listener σ) (session : Session)

/-- A deed, and the store right after it. -/
structure Entry (σ : Type) where
  deed : Deed σ
  store : SessionStore σ

/-- What is carried out: what a listener does, or the calls for the `n`-th change. -/
inductive Task (σ : Type)
  | perform (r : Reaction σ)
  | tell (n : Nat) (v : Session) (ls : List (Nat × Listener σ))

variable {σ : Type} {p q : Calling σ → Prop} {c : Calling σ} {k : Task σ} {r : Reaction σ}
  {s t u : SessionStore σ} {es fs xs ys : List (Entry σ)} {e : Entry σ} {d : Deed σ} {n : Nat}
  {v : Session}

/-- A task leads from one store to another, with this log. Each change has its own way of calling,
of those allowed. -/
inductive Run (p : Calling σ → Prop) :
    Task σ → SessionStore σ → List (Entry σ) → SessionStore σ → Prop
  | done (s : SessionStore σ) : Run p (.perform .done) s [] s
  | enter {v : Session} {next : Reaction σ} {c : Calling σ} {s t u : SessionStore σ}
      {es fs : List (Entry σ)} (hc : p c)
      (h : Run p (.tell (s.sent + 1) (v.opened c.now) (c.arrange s.listeners))
        (s.replace (v.opened c.now)) es t)
      (hr : Run p (.perform next) t fs u) :
      Run p (.perform (.enter v next)) s
        (⟨.enter (s.sent + 1) (v.opened c.now), s.replace (v.opened c.now)⟩ :: (es ++ fs)) u
  | leave {next : Reaction σ} {c : Calling σ} {s t u : SessionStore σ} {es fs : List (Entry σ)}
      (hc : p c) (ha : s.session.active = true)
      (h : Run p (.tell (s.sent + 1) .inactive (c.arrange s.listeners)) (s.replace .inactive) es t)
      (hr : Run p (.perform next) t fs u) :
      Run p (.perform (.leave next)) s
        (⟨.leave (s.sent + 1), s.replace .inactive⟩ :: (es ++ fs)) u
  | idle {next : Reaction σ} {s t : SessionStore σ} {es : List (Entry σ)}
      (ha : s.session.active = false) (hr : Run p (.perform next) s es t) :
      Run p (.perform (.leave next)) s (⟨.idle, s⟩ :: es) t
  | subscribe {l : Listener σ} {next : Nat → Reaction σ} {s t : SessionStore σ}
      {es : List (Entry σ)} (hr : Run p (.perform (next s.nextId)) (s.subscribe l).2 es t) :
      Run p (.perform (.subscribe l next)) s
        (⟨.subscribe (s.nextId, l), (s.subscribe l).2⟩ :: es) t
  | unsubscribe {id : Nat} {next : Reaction σ} {s t : SessionStore σ} {es : List (Entry σ)}
      (hr : Run p (.perform next) (s.unsubscribe id) es t) :
      Run p (.perform (.unsubscribe id next)) s (⟨.unsubscribe id, s.unsubscribe id⟩ :: es) t
  | read {next : Session → Reaction σ} {s t : SessionStore σ} {es : List (Entry σ)}
      (hr : Run p (.perform (next s.session)) s es t) : Run p (.perform (.read next)) s es t
  | memory {next : σ → Reaction σ} {s t : SessionStore σ} {es : List (Entry σ)}
      (hr : Run p (.perform (next s.memory)) s es t) : Run p (.perform (.recall next)) s es t
  | remember {m : σ} {next : Reaction σ} {s t : SessionStore σ} {es : List (Entry σ)}
      (hr : Run p (.perform next) { s with memory := m } es t) :
      Run p (.perform (.remember m next)) s es t
  | told (n : Nat) (v : Session) (s : SessionStore σ) : Run p (.tell n v []) s [] s
  | call {n : Nat} {v : Session} {l : Nat × Listener σ} {ls : List (Nat × Listener σ)}
      {s t u : SessionStore σ} {es fs : List (Entry σ)} (h : Run p (.perform (l.2 v)) s es t)
      (hr : Run p (.tell n v ls) t fs u) :
      Run p (.tell n v (l :: ls)) s (⟨.call n l v, s⟩ :: (es ++ fs)) u

theorem Run.mono (hp : ∀ c, p c → q c) (h : Run p k s es t) : Run q k s es t := by
  induction h with
  | done => exact .done _
  | enter hc _ _ ih ihr => exact .enter (hp _ hc) ih ihr
  | leave hc ha _ _ ih ihr => exact .leave (hp _ hc) ha ih ihr
  | idle ha _ ih => exact .idle ha ih
  | subscribe _ ih => exact .subscribe ih
  | unsubscribe _ ih => exact .unsubscribe ih
  | read _ ih => exact .read ih
  | memory _ ih => exact .memory ih
  | remember _ ih => exact .remember ih
  | told => exact .told _ _ _
  | call _ _ ih ihr => exact .call ih ihr

/-! Runs in which each change is told in the same way are those that end within some depth. -/

/-- What a task comes to, with changes nested at most `depth` deep below it. -/
def Task.outcome (c : Calling σ) (depth : Nat) : Task σ → SessionStore σ → Option (SessionStore σ)
  | .perform r, s => SessionStore.perform (notify c depth) c.now r s
  | .tell _ v ls, s =>
    ls.foldlM (fun s l => SessionStore.perform (notify c depth) c.now (l.2 v) s) s

theorem run_of_perform {notify : Notify σ}
    (hn : ∀ n v s t, notify v s = some t →
      ∃ es, Run (· = c) (.tell n v (c.arrange s.listeners)) s es t)
    (r : Reaction σ) :
    ∀ {s t}, SessionStore.perform notify c.now r s = some t →
      ∃ es, Run (· = c) (.perform r) s es t := by
  induction r with
  | done =>
    intro s t h
    cases h
    exact ⟨_, .done s⟩
  | enter v next ih =>
    intro s t h
    obtain ⟨u, hu, h⟩ := Option.bind_eq_some_iff.mp h
    obtain ⟨es, he⟩ := hn (s.sent + 1) _ _ _ hu
    obtain ⟨fs, hf⟩ := ih h
    exact ⟨_, .enter rfl he hf⟩
  | leave next ih =>
    intro s t h
    obtain ⟨u, hu, h⟩ := Option.bind_eq_some_iff.mp h
    obtain ⟨fs, hf⟩ := ih h
    unfold leaveWith at hu
    split at hu
    · rename_i ha
      obtain ⟨es, he⟩ := hn (s.sent + 1) _ _ _ hu
      exact ⟨_, .leave rfl ha he hf⟩
    · rename_i ha
      cases hu
      exact ⟨_, .idle (Bool.not_eq_true _ ▸ ha) hf⟩
  | subscribe l next _ ih =>
    intro s t h
    obtain ⟨es, he⟩ := ih _ h
    exact ⟨_, .subscribe he⟩
  | unsubscribe id next ih =>
    intro s t h
    obtain ⟨es, he⟩ := ih h
    exact ⟨_, .unsubscribe he⟩
  | read next ih =>
    intro s t h
    obtain ⟨es, he⟩ := ih _ h
    exact ⟨_, .read he⟩
  | «recall» next ih =>
    intro s t h
    obtain ⟨es, he⟩ := ih _ h
    exact ⟨_, .memory he⟩
  | remember m next ih =>
    intro s t h
    obtain ⟨es, he⟩ := ih h
    exact ⟨_, .remember he⟩

theorem run_of_tell {notify : Notify σ}
    (hn : ∀ n v s t, notify v s = some t →
      ∃ es, Run (· = c) (.tell n v (c.arrange s.listeners)) s es t)
    (n : Nat) (v : Session) (ls : List (Nat × Listener σ)) :
    ∀ {s t}, ls.foldlM (fun s l => SessionStore.perform notify c.now (l.2 v) s) s = some t →
      ∃ es, Run (· = c) (.tell n v ls) s es t := by
  induction ls with
  | nil =>
    intro s t h
    cases h
    exact ⟨_, .told n v s⟩
  | cons l ls ih =>
    intro s t h
    rw [List.foldlM_cons] at h
    obtain ⟨u, hu, h⟩ := Option.bind_eq_some_iff.mp h
    obtain ⟨es, he⟩ := run_of_perform hn _ hu
    obtain ⟨fs, hf⟩ := ih h
    exact ⟨_, .call he hf⟩

theorem run_of_notify (c : Calling σ) (depth : Nat) :
    ∀ n v s t, notify c depth v s = some t →
      ∃ es, Run (· = c) (.tell n v (c.arrange s.listeners)) s es t := by
  induction depth with
  | zero =>
    intro n v s t h
    cases h
  | succ depth ih =>
    intro n v s t h
    exact run_of_tell ih n v _ h

/-- A run ends within some depth, and then within any greater one. -/
theorem Run.outcome (h : Run (· = c) k s es t) :
    ∃ d, ∀ depth, d ≤ depth → k.outcome c depth s = some t := by
  induction h with
  | done => exact ⟨0, fun _ _ => rfl⟩
  | @enter v next c' s t u es fs hc _ _ ih ihr =>
    subst hc
    obtain ⟨d, hd⟩ := ih
    obtain ⟨d', hd'⟩ := ihr
    refine ⟨max d d' + 1, fun depth hle => ?_⟩
    obtain ⟨depth, rfl⟩ := Nat.exists_eq_succ_of_ne_zero (show depth ≠ 0 by omega)
    exact Option.bind_eq_some_iff.mpr ⟨t, hd depth (by omega), hd' _ (by omega)⟩
  | @leave next c' s t u es fs hc ha _ _ ih ihr =>
    subst hc
    obtain ⟨d, hd⟩ := ih
    obtain ⟨d', hd'⟩ := ihr
    refine ⟨max d d' + 1, fun depth hle => ?_⟩
    obtain ⟨depth, rfl⟩ := Nat.exists_eq_succ_of_ne_zero (show depth ≠ 0 by omega)
    refine Option.bind_eq_some_iff.mpr ⟨t, ?_, hd' _ (by omega)⟩
    rw [leaveWith, if_pos ha]
    exact hd depth (by omega)
  | idle ha _ ih =>
    obtain ⟨d, hd⟩ := ih
    refine ⟨d, fun depth hle => Option.bind_eq_some_iff.mpr ⟨_, ?_, hd depth hle⟩⟩
    rw [leaveWith, if_neg (by simp [ha])]
  | subscribe _ ih => exact ih
  | unsubscribe _ ih => exact ih
  | read _ ih => exact ih
  | memory _ ih => exact ih
  | remember _ ih => exact ih
  | told => exact ⟨0, fun _ _ => rfl⟩
  | @call n v l ls s t u es fs _ _ ih ihr =>
    obtain ⟨d, hd⟩ := ih
    obtain ⟨d', hd'⟩ := ihr
    refine ⟨max d d', fun depth hle => ?_⟩
    rw [Task.outcome, List.foldlM_cons]
    exact Option.bind_eq_some_iff.mpr ⟨t, hd depth (by omega), hd' depth (by omega)⟩

/-- What can be carried out within some depth is what has a run. -/
theorem perform_iff_run :
    (∃ depth, SessionStore.perform (notify c depth) c.now r s = some t) ↔
      ∃ es, Run (· = c) (.perform r) s es t := by
  constructor
  · rintro ⟨depth, h⟩
    exact run_of_perform (run_of_notify c depth) r h
  · rintro ⟨es, h⟩
    obtain ⟨d, hd⟩ := h.outcome
    exact ⟨d, hd d le_rfl⟩

/-! The log of a run, deed by deed. -/

/-- What a deed does to a store. -/
inductive Deed.Does : Deed σ → SessionStore σ → SessionStore σ → Prop
  | enter (s : SessionStore σ) (v : Session) (now : Moment) :
      Does (.enter (s.sent + 1) (v.opened now)) s (s.replace (v.opened now))
  | leave {s : SessionStore σ} (ha : s.session.active = true) :
      Does (.leave (s.sent + 1)) s (s.replace .inactive)
  | idle {s : SessionStore σ} (ha : s.session.active = false) : Does .idle s s
  | subscribe (s : SessionStore σ) (l : Listener σ) :
      Does (.subscribe (s.nextId, l)) s (s.subscribe l).2
  | unsubscribe (s : SessionStore σ) (id : Nat) : Does (.unsubscribe id) s (s.unsubscribe id)
  | call (s : SessionStore σ) (n : Nat) (l : Nat × Listener σ) (v : Session) :
      Does (.call n l v) s s

/-- The deeds of a log lead from one store to another. Between them only the memory may change. -/
inductive Course : SessionStore σ → List (Entry σ) → SessionStore σ → Prop
  | refl (s : SessionStore σ) : Course s [] s
  | remember {s t : SessionStore σ} {es : List (Entry σ)} (m : σ)
      (h : Course { s with memory := m } es t) : Course s es t
  | step {s t u : SessionStore σ} {es : List (Entry σ)} {d : Deed σ} (hd : d.Does s t)
      (h : Course t es u) : Course s (⟨d, t⟩ :: es) u

theorem Course.trans (h : Course s es t) (h' : Course t fs u) : Course s (es ++ fs) u := by
  induction h with
  | refl => exact h'
  | remember m _ ih => exact .remember m (ih h')
  | step hd _ ih => exact .step hd (ih h')

theorem Run.course (h : Run p k s es t) : Course s es t := by
  induction h with
  | done => exact .refl _
  | enter _ _ _ ih ihr => exact .step (.enter _ _ _) (ih.trans ihr)
  | leave _ ha _ _ ih ihr => exact .step (.leave ha) (ih.trans ihr)
  | idle ha _ ih => exact .step (.idle ha) ih
  | subscribe _ ih => exact .step (.subscribe _ _) ih
  | unsubscribe _ ih => exact .step (.unsubscribe _ _) ih
  | read _ ih => exact ih
  | memory _ ih => exact ih
  | remember _ ih => exact .remember _ ih
  | told => exact .refl _
  | call _ _ ih ihr => exact .step (.call _ _ _ _) (ih.trans ihr)

/-- The store before and after an entry of the log. -/
theorem Course.split (h : Course s (xs ++ e :: ys) t) :
    ∃ u, Course s xs u ∧ e.deed.Does u e.store ∧ Course e.store ys t := by
  generalize hl : xs ++ e :: ys = es at h
  induction h generalizing xs with
  | refl => simp at hl
  | remember m _ ih =>
    obtain ⟨u, hu, hd⟩ := ih hl
    exact ⟨u, .remember m hu, hd⟩
  | @step s _ _ _ _ hd h ih =>
    cases xs with
    | nil =>
      cases hl
      exact ⟨s, .refl s, hd, h⟩
    | cons x xs =>
      cases hl
      obtain ⟨u, hu, hrest⟩ := ih rfl
      exact ⟨u, .step hd hu, hrest⟩

/-- The number of a change, and the session it brings. -/
def Deed.change? : Deed σ → Option (Nat × Session)
  | .enter n v => some (n, v)
  | .leave n => some (n, .inactive)
  | .idle | .subscribe _ | .unsubscribe _ | .call _ _ _ => none

/-- The changes of a log. -/
def changes (es : List (Entry σ)) : List (Nat × Session) := es.filterMap (·.deed.change?)

/-- The session after a log that has begun with `v`. -/
def latest (v : Session) (es : List (Entry σ)) : Session := (changes es).foldl (fun _ c => c.2) v

/-- The listeners that a deed leaves. -/
def Deed.listeners (ls : List (Nat × Listener σ)) : Deed σ → List (Nat × Listener σ)
  | .subscribe l => ls ++ [l]
  | .unsubscribe id => ls.filter fun l => l.1 != id
  | .enter _ _ | .leave _ | .idle | .call _ _ _ => ls

/-- Of the listeners from before and those that have subscribed, the ones not dropped. -/
def registered (ls : List (Nat × Listener σ)) (es : List (Entry σ)) : List (Nat × Listener σ) :=
  es.foldl (fun ls e => e.deed.listeners ls) ls

theorem Deed.Does.listeners (h : d.Does s t) : t.listeners = d.listeners s.listeners := by
  cases h <;> rfl

theorem Deed.Does.numbered (h : d.Does s t) (hs : Numbered s) : Numbered t := by
  cases h with
  | enter => exact ⟨hs.nodup, hs.lt⟩
  | leave => exact ⟨hs.nodup, hs.lt⟩
  | idle => exact hs
  | subscribe => exact hs.subscribe _
  | unsubscribe => exact hs.unsubscribe _
  | call => exact hs

/-- A change takes the next number, and its session is in place. -/
theorem Deed.Does.change (h : d.Does s t) :
    d.change? = some (s.sent + 1, t.session) ∧ t.sent = s.sent + 1 ∨
      d.change? = none ∧ t.sent = s.sent ∧ t.session = s.session := by
  cases h with
  | enter => exact Or.inl ⟨rfl, rfl⟩
  | leave => exact Or.inl ⟨rfl, rfl⟩
  | _ => exact Or.inr ⟨rfl, rfl, rfl⟩

theorem Course.listeners (h : Course s es t) : t.listeners = registered s.listeners es := by
  induction h with
  | refl => rfl
  | remember _ _ ih => exact ih
  | step hd _ ih =>
    rw [ih, hd.listeners]
    rfl

theorem Course.numbered (h : Course s es t) (hs : Numbered s) : Numbered t := by
  induction h with
  | refl => exact hs
  | remember _ _ ih => exact ih ⟨hs.nodup, hs.lt⟩
  | step hd _ ih => exact ih (hd.numbered hs)

/-- Changes are numbered as they are made. -/
theorem Course.changes (h : Course s es t) :
    ∃ k, t.sent = s.sent + k ∧ (changes es).map (·.1) = List.range' (s.sent + 1) k := by
  induction h with
  | refl => exact ⟨0, rfl, rfl⟩
  | remember _ _ ih => exact ih
  | step hd _ ih =>
    obtain ⟨k, hk, he⟩ := ih
    rcases hd.change with ⟨hd, ht⟩ | ⟨hd, ht, _⟩
    · refine ⟨k + 1, by omega, ?_⟩
      rw [ht] at he
      simp [SessionStore.changes, hd, List.range'_succ, ← he]
    · refine ⟨k, by omega, ?_⟩
      rw [ht] at he
      simp [SessionStore.changes, hd, ← he]

theorem Course.sent_le (h : Course s es t) : s.sent ≤ t.sent := by
  obtain ⟨k, hk, _⟩ := h.changes
  omega

theorem Course.session (h : Course s es t) : t.session = latest s.session es := by
  induction h with
  | refl => rfl
  | remember _ _ ih => exact ih
  | step hd _ ih =>
    rw [ih]
    rcases hd.change with ⟨hd, _⟩ | ⟨hd, _, hv⟩
    · simp [latest, SessionStore.changes, hd]
    · simp [latest, SessionStore.changes, hd, hv]

end SessionStore
end Companions
