import Companions.Proofs.SessionRuns

/-! Each change of the visiting session is told once to each listener registered when it is made,
however changes are nested and listeners come and go in between. -/
namespace Companions
namespace SessionStore

variable {σ : Type} {p : Calling σ → Prop} {c : Calling σ} {k : Task σ} {r : Reaction σ}
  {s t u : SessionStore σ} {es fs xs ys : List (Entry σ)} {e : Entry σ} {d : Deed σ} {n : Nat}
  {v : Session} {l : Nat × Listener σ} {ls : List (Nat × Listener σ)}
  {f g : Nat → List ((Nat × Listener σ) × Session)}

/-- The listener called for the `n`-th change, and what it is told. -/
def Deed.call? (n : Nat) : Deed σ → Option ((Nat × Listener σ) × Session)
  | .call m l v => if m = n then some (l, v) else none
  | .enter _ _ | .leave _ | .idle | .subscribe _ | .unsubscribe _ => none

/-- The calls for the `n`-th change. -/
def calls (n : Nat) (es : List (Entry σ)) : List ((Nat × Listener σ) × Session) :=
  es.filterMap (·.deed.call? n)

@[simp] theorem calls_append (n : Nat) (es fs : List (Entry σ)) :
    calls n (es ++ fs) = calls n es ++ calls n fs :=
  List.filterMap_append

theorem mem_calls {x : (Nat × Listener σ) × Session} :
    x ∈ calls n es ↔ ∃ e ∈ es, e.deed = .call n x.1 x.2 := by
  simp only [calls, List.mem_filterMap]
  refine exists_congr fun e => and_congr_right fun _ => ?_
  cases e.deed with
  | call m l v =>
    by_cases h : m = n
    · simp [Deed.call?, h, Prod.ext_iff, eq_comm]
    · simp [Deed.call?, h]
  | _ => simp [Deed.call?]

/-- A part of a log, in which these calls are due for earlier changes, and all calls for the changes
made in it. -/
structure Told (f : Nat → List ((Nat × Listener σ) × Session)) (s : SessionStore σ)
    (es : List (Entry σ)) : Prop where
  early : ∀ n ≤ s.sent, calls n es = f n
  past : ∀ e ∈ es, ∀ n l v, e.deed = .call n l v → n ≤ e.store.sent
  told : ∀ e ∈ es, ∀ n v, e.deed.change? = some (n, v) →
    (calls n es).Perm (e.store.listeners.map (·, v))

/-- The calls that a task has to make for earlier changes. -/
def Task.due : Task σ → Nat → List ((Nat × Listener σ) × Session)
  | .perform _, _ => []
  | .tell m v ls, n => if m = n then ls.map (·, v) else []

/-- What is told is a change made before. -/
def Task.Past (s : SessionStore σ) : Task σ → Prop
  | .perform _ => True
  | .tell n _ _ => n ≤ s.sent

theorem Course.store_sent_le (h : Course s es t) (he : e ∈ es) : e.store.sent ≤ t.sent := by
  obtain ⟨xs, ys, rfl⟩ := List.append_of_mem he
  obtain ⟨_, _, _, h⟩ := h.split
  exact h.sent_le

/-- The changes made in a log have numbers of their own. -/
theorem Course.number (h : Course s es t) (he : e ∈ es) (hc : e.deed.change? = some (n, v)) :
    s.sent < n ∧ n ≤ t.sent := by
  obtain ⟨k, hk, hr⟩ := h.changes
  have hm : n ∈ (SessionStore.changes es).map (·.1) :=
    List.mem_map.mpr ⟨(n, v), List.mem_filterMap.mpr ⟨e, he, hc⟩, rfl⟩
  rw [hr, List.mem_range'_1] at hm
  omega

/-- There are no calls for changes not yet made. -/
theorem Told.late (h : Told f s es) (hc : Course s es t) (hn : t.sent < n) :
    calls n es = [] := by
  refine List.eq_nil_iff_forall_not_mem.mpr fun x hx => ?_
  obtain ⟨e, he, hd⟩ := mem_calls.mp hx
  have := h.past e he n _ _ hd
  have := hc.store_sent_le he
  omega

theorem Told.nil (s : SessionStore σ) : Told (fun _ => []) s [] :=
  ⟨fun _ _ => rfl, fun _ he => (List.not_mem_nil he).elim,
    fun _ he => (List.not_mem_nil he).elim⟩

theorem Told.append (h : Told f s es) (hc : Course s es t) (h' : Told g t fs)
    (hc' : Course t fs u) (hg : ∀ n, s.sent < n → g n = []) :
    Told (fun n => f n ++ g n) s (es ++ fs) := by
  refine ⟨?_, ?_, ?_⟩
  · intro n hn
    rw [calls_append, h.early n hn, h'.early n (hn.trans hc.sent_le)]
  · intro e he
    rcases List.mem_append.mp he with he | he
    · exact h.past e he
    · exact h'.past e he
  · intro e he n v hv
    rw [calls_append]
    rcases List.mem_append.mp he with he | he
    · -- The calls for a change made in the first part all fall into that part.
      obtain ⟨hlt, hle⟩ := hc.number he hv
      rw [h'.early n hle, hg n hlt, List.append_nil]
      exact h.told e he n v hv
    · obtain ⟨hlt, _⟩ := hc'.number he hv
      rw [h.late hc hlt, List.nil_append]
      exact h'.told e he n v hv

theorem Told.congr (h : Told f s es) (hfg : ∀ n ≤ s.sent, f n = g n) : Told g s es :=
  { h with early := fun n hn => (h.early n hn).trans (hfg n hn) }

/-- A deed that is not a call; if it is a change, then the calls for it follow. -/
theorem Told.cons (h : Told f t es) (hd : ∀ n, d.call? n = none) (ht : s.sent ≤ t.sent)
    (hc : ∀ n v, d.change? = some (n, v) → (calls n es).Perm (t.listeners.map (·, v))) :
    Told f s (⟨d, t⟩ :: es) := by
  have hcons : ∀ n, calls n (⟨d, t⟩ :: es) = calls n es := by
    intro n
    simp [calls, hd n]
  refine ⟨?_, ?_, ?_⟩
  · intro n hn
    rw [hcons]
    exact h.early n (hn.trans ht)
  · intro e he n l v hv
    rcases List.mem_cons.mp he with rfl | he
    · have hcall := hd n
      rw [show d = _ from hv] at hcall
      simp [Deed.call?] at hcall
    · exact h.past e he n l v hv
  · intro e he n v hv
    rw [hcons]
    rcases List.mem_cons.mp he with rfl | he
    · exact hc n v hv
    · exact h.told e he n v hv

/-- The session is replaced, everyone is told, and what follows tells of later changes only. -/
theorem Told.change (hls : ls.Perm s.listeners)
    (h : Told (Task.tell (s.sent + 1) v ls).due (s.replace v) es)
    (hc : Course (s.replace v) es t) (h' : Told (fun _ => []) t fs) (hc' : Course t fs u)
    (hd : d.change? = some (s.sent + 1, v)) (hn : ∀ n, d.call? n = none) :
    Told (fun _ => []) s (⟨d, s.replace v⟩ :: (es ++ fs)) := by
  have hall := h.append hc h' hc' fun _ _ => rfl
  have hcalls : calls (s.sent + 1) (es ++ fs) = ls.map (·, v) := by
    refine (hall.early (s.sent + 1) le_rfl).trans ?_
    simp [Task.due]
  refine (hall.cons (s := s) hn (Nat.le_succ _) fun n w hw => ?_).congr fun n hle => ?_
  · rw [hd] at hw
    cases hw
    rw [hcalls]
    exact hls.map _
  · simp [Task.due, show s.sent + 1 ≠ n by omega]

/-- A call for an earlier change. -/
theorem told_call (hn : n ≤ s.sent) :
    Told (fun m => if n = m then [(l, v)] else []) s [⟨.call n l v, s⟩] := by
  refine ⟨?_, ?_, ?_⟩
  · intro m _
    by_cases h : n = m <;> simp [calls, Deed.call?, h]
  · intro e he m l' v' hd
    cases List.mem_singleton.mp he
    cases hd
    exact hn
  · intro e he m w hw
    cases List.mem_singleton.mp he
    cases hw

theorem Run.tells (hp : ∀ c, p c → c.Fair) (h : Run p k s es t) (hk : k.Past s) :
    Told k.due s es := by
  induction h with
  | done s => exact .nil s
  | enter hc h hr ih ihr =>
    exact .change (hp _ hc _) (ih le_rfl) h.course (ihr trivial) hr.course rfl fun _ => rfl
  | leave hc _ h hr ih ihr =>
    exact .change (hp _ hc _) (ih le_rfl) h.course (ihr trivial) hr.course rfl fun _ => rfl
  | idle _ _ ih => exact (ih trivial).cons (fun _ => rfl) le_rfl fun _ _ hv => by cases hv
  | subscribe _ ih => exact (ih trivial).cons (fun _ => rfl) le_rfl fun _ _ hv => by cases hv
  | unsubscribe _ ih => exact (ih trivial).cons (fun _ => rfl) le_rfl fun _ _ hv => by cases hv
  | read _ ih => exact ih trivial
  | memory _ ih => exact ih trivial
  | remember _ ih =>
    have h := ih trivial
    exact ⟨h.early, h.past, h.told⟩
  | told n v s => exact (Told.nil s).congr fun m _ => by simp [Task.due]
  | @call n v l ls s t u es fs h hr ih ihr =>
    have hn : n ≤ s.sent := hk
    have hcall : Course s [⟨.call n l v, s⟩] s := .step (.call _ _ _ _) (.refl s)
    -- What the listener does tells of later changes, and the calls that are left are for this one.
    have hrest := (ih trivial).append h.course (ihr (hn.trans h.course.sent_le)) hr.course
      fun m hm => if_neg (by omega)
    have hall := (told_call hn).append hcall hrest (h.course.trans hr.course) fun m hm => by
      simp [Task.due, show n ≠ m by omega]
    refine hall.congr fun m _ => ?_
    by_cases hnm : n = m <;> simp [Task.due, hnm]

theorem Deed.Does.active (h : d.Does s t) :
    (∀ n, d = .leave n → s.session.active = true) ∧ (d = .idle → s.session.active = false) := by
  cases h with
  | leave ha => exact ⟨fun _ _ => ha, fun hd => (by cases hd)⟩
  | idle ha => exact ⟨fun _ hd => (by cases hd), fun _ => ha⟩
  | _ => exact ⟨fun _ hd => (by cases hd), fun hd => (by cases hd)⟩

/-- What the log of a run tells that began with a new store. -/
structure Delivered (es : List (Entry σ)) (t : SessionStore σ) : Prop where
  /-- Changes are numbered as they are made. -/
  numbers : (changes es).map (·.1) = List.range' 1 t.sent
  /-- Each change is told once to each listener registered when it was made, with its session. -/
  told : ∀ e ∈ es, ∀ n v, e.deed.change? = some (n, v) →
    e.store.session = v ∧ (calls n es).Perm (e.store.listeners.map (·, v))
  /-- Every call is for a change made before, with its session. -/
  called : ∀ xs e ys, es = xs ++ e :: ys → ∀ n l v, e.deed = .call n l v → (n, v) ∈ changes xs
  /-- A visit is ended if there is one; else there is no change. -/
  left : ∀ xs e ys, es = xs ++ e :: ys →
    (∀ n, e.deed = .leave n → (latest .inactive xs).active = true) ∧
      (e.deed = .idle → (latest .inactive xs).active = false)
  /-- The listeners are those that have subscribed and were not dropped, under different numbers. -/
  listeners : ∀ xs e ys, es = xs ++ e :: ys →
    e.store.listeners = registered [] (xs ++ [e]) ∧ (e.store.listeners.map (·.1)).Nodup

/-- A change has the number and the session of the store right after it. -/
theorem Course.stored (h : Course s es t) (he : e ∈ es) (hv : e.deed.change? = some (n, v)) :
    e.store.sent = n ∧ e.store.session = v := by
  obtain ⟨xs, ys, rfl⟩ := List.append_of_mem he
  obtain ⟨u, _, hd, _⟩ := h.split
  rcases hd.change with ⟨hd, hsent⟩ | ⟨hd, _⟩
  · rw [hd] at hv
    cases hv
    exact ⟨hsent, rfl⟩
  · rw [hd] at hv
    cases hv

/-- Where no calls are due for earlier changes, each call brings the session of the change that has
its number. -/
theorem Told.called (h : Told (fun _ => []) s (xs ++ e :: ys)) (hc : Course s (xs ++ e :: ys) t)
    (hd : e.deed = .call n l v) : (n, v) ∈ changes xs := by
  obtain ⟨u, hu, hdoes, _⟩ := hc.split
  have hmem : (l, v) ∈ calls n (xs ++ e :: ys) := mem_calls.mpr ⟨e, by simp, hd⟩
  have hle : n ≤ u.sent := by
    have := h.past e (by simp) n l v hd
    rcases hdoes.change with ⟨hch, _⟩ | ⟨_, hsent, _⟩
    · rw [hd] at hch
      cases hch
    · omega
  have hpos : s.sent < n := by
    by_contra hz
    rw [h.early n (by omega)] at hmem
    cases hmem
  obtain ⟨k, hk, hr⟩ := hu.changes
  have hin : n ∈ (changes xs).map (·.1) := by
    rw [hr, List.mem_range'_1]
    omega
  obtain ⟨⟨n', w⟩, hx, rfl⟩ := List.mem_map.mp hin
  obtain ⟨e', he', hw⟩ := List.mem_filterMap.mp hx
  have hperm := h.told e' (List.mem_append_left _ he') n' w hw
  obtain ⟨_, _, hl⟩ := List.mem_map.mp (hperm.subset hmem)
  cases hl
  exact hx

theorem Run.delivered {memory : σ} (hp : ∀ c, p c → c.Fair)
    (h : Run p (.perform r) { memory } es t) : Delivered es t := by
  have hc := h.course
  have ht : Told (fun _ => []) { memory } es := h.tells hp trivial
  refine ⟨?_, ?_, ?_, ?_, ?_⟩
  · obtain ⟨k, hk, hr⟩ := hc.changes
    rw [hr, hk]
    simp
  · exact fun e he n v hv => ⟨(hc.stored he hv).2, ht.told e he n v hv⟩
  · rintro xs e ys rfl n l v hd
    exact ht.called hc hd
  · rintro xs e ys rfl
    obtain ⟨u, hu, hdoes, _⟩ := hc.split
    have hsession : u.session = latest .inactive xs := hu.session
    rw [← hsession]
    exact hdoes.active
  · rintro xs e ys rfl
    obtain ⟨u, hu, hdoes, _⟩ := hc.split
    have hto : Course { memory } (xs ++ [e]) e.store := hu.trans (.step hdoes (.refl _))
    exact ⟨hto.listeners, (hto.numbered ⟨.nil, fun l hl => by cases hl⟩).nodup⟩

/-- Whatever is done with a new store comes to an end, with changes nested to any depth, if and only
if it has a run. In every run, with each change told in any order, each change is told once to each
listener registered when it is made, and there are no other calls. -/
theorem each_change_told_once (r : Reaction σ) (memory : σ) (t : SessionStore σ) :
    (∀ c, (∃ depth, SessionStore.perform (notify c depth) c.now r { memory } = some t) ↔
      ∃ es, Run (· = c) (.perform r) { memory } es t) ∧
    ∀ es, Run Calling.Fair (.perform r) { memory } es t → Delivered es t := by
  refine ⟨fun c => perform_iff_run, fun es h => ?_⟩
  exact h.delivered fun _ hc => hc

/-- A listener that ends each visit as soon as it begins. -/
def turnAway : Listener Unit := fun v => if v.active then .leave .done else .done

/-- The second listener, which gives up its place to another one when a visit is over. -/
def giveWay : Listener Unit := fun v =>
  if v.active then .done else .subscribe (fun _ => .done) fun _ => .unsubscribe 1 .done

/-- The visit ends within the calls for its beginning, so that nothing is left to end. -/
def shortVisit : Reaction Unit :=
  .subscribe turnAway fun _ => .subscribe giveWay fun _ =>
    .enter { owner := some 2, visitor := some 3 } (.leave .done)

theorem each_change_told_once_nested :
    ∃ es t, Run Calling.Fair (.perform shortVisit) { memory := () } es t ∧ Delivered es t ∧
      (changes es).map (·.1) = [1, 2] ∧ (calls 1 es).map (·.1.1) = [0, 1] ∧
      (calls 2 es).map (·.1.1) = [0, 1] ∧ t.listeners.map (·.1) = [0, 2] := by
  have hc : Calling.Fair ({ now := ⟨1, by decide, by decide⟩ } : Calling Unit) := fun _ => .refl _
  have h : Run Calling.Fair (.perform shortVisit) { memory := () } _ _ :=
    .subscribe (.subscribe (.enter hc
      (.call (.leave hc rfl
        (.call (.done _) (.call (.subscribe (.unsubscribe (.done _))) (.told _ _ _))) (.done _))
        (.call (.done _) (.told _ _ _)))
      (.idle rfl (.done _))))
  exact ⟨_, _, h, (each_change_told_once shortVisit () _).2 _ h, rfl, rfl, rfl, rfl⟩

end SessionStore
end Companions
