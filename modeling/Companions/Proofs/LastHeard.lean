import Companions.Proofs.Deliveries

/-! What a listener hears last. Each listener is told the session that is stored in the end. It can
hear an older one after that, if another listener that was called before it has changed the session
again. -/
namespace Companions
namespace SessionStore

variable {σ : Type} {p : Calling σ → Prop} {k : Task σ} {r : Reaction σ} {s t : SessionStore σ}
  {es fs xs ys : List (Entry σ)} {e : Entry σ} {d : Deed σ} {id n : Nat} {v : Session}

/-- The number of the change that the listener `id` is called for, and what it is told. -/
def Deed.heard? (id : Nat) : Deed σ → Option (Nat × Session)
  | .call n l v => if l.1 = id then some (n, v) else none
  | .enter _ _ | .leave _ | .idle | .subscribe _ | .unsubscribe _ => none

/-- All that the listener `id` hears, in order. -/
def heard (id : Nat) (es : List (Entry σ)) : List (Nat × Session) :=
  es.filterMap (·.deed.heard? id)

/-- The listener `id` is registered after each deed. -/
def Stays (id : Nat) (es : List (Entry σ)) : Prop :=
  ∀ e ∈ es, id ∈ e.store.listeners.map (·.1)

/-- Before the turn of the listener `id` in the calls for the `n`-th change, and after another one
was called for it, the session was changed again. -/
def Overtaken (id n : Nat) (es : List (Entry σ)) : Prop :=
  ∃ xs ys zs l l' v w w',
    es = xs ++ ⟨.call n l v, w⟩ :: (ys ++ ⟨.call n l' v, w'⟩ :: zs) ∧
      l.1 ≠ id ∧ l'.1 = id ∧ changes ys ≠ []

theorem Deed.heard?_eq_some {x : Nat × Session} :
    d.heard? id = some x ↔ ∃ l, d = .call x.1 l x.2 ∧ l.1 = id := by
  cases d with
  | call m l v =>
    constructor
    · intro h
      rw [heard?] at h
      split at h
      · cases h
        exact ⟨l, rfl, ‹_›⟩
      · cases h
    · rintro ⟨l', hd, hl⟩
      cases hd
      exact if_pos hl
  | _ => simp [heard?]

/-- The last of what is found in a list. -/
theorem exists_last {α β : Type} {f : α → Option β} {as : List α} (h : as.filterMap f ≠ []) :
    ∃ bs a cs b, as = bs ++ a :: cs ∧ f a = some b ∧ cs.filterMap f = [] ∧
      (as.filterMap f).getLast? = some b := by
  obtain ⟨init, b, hb⟩ := (List.eq_nil_or_concat' (as.filterMap f)).resolve_left h
  obtain ⟨bs, ds, rfl, _, hds⟩ := List.filterMap_eq_append_iff.mp hb
  obtain ⟨cs, a, rest, rfl, _, ha, hrest⟩ := List.filterMap_eq_cons_iff.mp hds
  exact ⟨bs ++ cs, a, rest, b, by simp, ha, hrest, by simp [hb]⟩

/-- Every change in a log is followed by the calls for it. -/
def Followed (p : Calling σ → Prop) (es : List (Entry σ)) : Prop :=
  ∀ xs d w ys n v, es = xs ++ ⟨d, w⟩ :: ys → d.change? = some (n, v) →
    ∃ c fs gs u, p c ∧ ys = fs ++ gs ∧ Run p (.tell n v (c.arrange w.listeners)) w fs u

theorem Followed.append (h : Followed p es) (h' : Followed p fs) : Followed p (es ++ fs) := by
  intro xs d w ys n v hs hd
  rcases List.append_eq_append_iff.mp hs with ⟨as, _, hfs⟩ | ⟨as, hes, has⟩
  · exact h' as d w ys n v hfs hd
  · cases as with
    | nil => exact h' [] d w ys n v has.symm hd
    | cons a as =>
      cases has
      obtain ⟨c, gs, gs', u, hc, rfl, hr⟩ := h xs d w as n v hes hd
      exact ⟨c, gs, gs' ++ fs, u, hc, List.append_assoc gs gs' fs, hr⟩

theorem Followed.cons (h : Followed p es) (hd : d.change? = none) : Followed p (⟨d, s⟩ :: es) := by
  intro xs d' w ys n v hs hd'
  cases xs with
  | nil =>
    cases hs
    rw [hd] at hd'
    cases hd'
  | cons x xs =>
    cases hs
    exact h xs d' w ys n v rfl hd'

theorem Followed.change {c : Calling σ} (hc : p c) (hd : d.change? = some (n, v))
    (hr : Run p (.tell n v (c.arrange s.listeners)) s es t) (h : Followed p es)
    (h' : Followed p fs) : Followed p (⟨d, s⟩ :: (es ++ fs)) := by
  intro xs d' w ys m v' hs hd'
  cases xs with
  | nil =>
    cases hs
    rw [hd] at hd'
    cases hd'
    exact ⟨c, es, fs, t, hc, rfl, hr⟩
  | cons x xs =>
    simp only [List.cons_append, List.cons.injEq] at hs
    exact h.append h' xs d' w ys m v' hs.2 hd'

theorem followed_nil : Followed p ([] : List (Entry σ)) := by
  intro xs d w ys n v hs
  simp at hs

theorem Run.followed (h : Run p k s es t) : Followed p es := by
  induction h with
  | done => exact followed_nil
  | enter hc h _ ih ihr => exact .change hc rfl h ih ihr
  | leave hc _ h _ ih ihr => exact .change hc rfl h ih ihr
  | idle _ _ ih => exact ih.cons rfl
  | subscribe _ ih => exact ih.cons rfl
  | unsubscribe _ ih => exact ih.cons rfl
  | read _ ih => exact ih
  | memory _ ih => exact ih
  | remember _ ih => exact ih
  | told => exact followed_nil
  | call _ _ ih ihr => exact (ih.append ihr).cons rfl

/-- The first call for a change comes right after it. -/
theorem Followed.first_call (hf : Followed p es) (hp : ∀ c, p c → c.Fair) {w : SessionStore σ}
    (hs : es = xs ++ ⟨d, w⟩ :: ys) (hd : d.change? = some (n, v))
    (hid : id ∈ w.listeners.map (·.1)) : ∃ l zs, ys = ⟨.call n l v, w⟩ :: zs := by
  obtain ⟨c, fs, gs, u, hc, rfl, hr⟩ := hf xs d w ys n v hs hd
  obtain ⟨l, hl, rfl⟩ := List.mem_map.mp hid
  have hmem : l ∈ c.arrange w.listeners := (hp c hc w.listeners).mem_iff.mpr hl
  generalize c.arrange w.listeners = ls at hr hmem
  cases hr with
  | told => cases hmem
  | @call _ _ l' _ _ _ _ _ _ h hr => exact ⟨l', _, rfl⟩

theorem Course.still (h : Course s es t) (hn : SessionStore.changes es = []) :
    t.sent = s.sent ∧ t.session = s.session := by
  obtain ⟨k, hk, hr⟩ := h.changes
  rw [hn] at hr
  have hzero : k = 0 := by simpa using hr.symm
  refine ⟨by omega, ?_⟩
  rw [h.session, latest, hn]
  rfl

theorem Course.sent_lt (h : Course s es t) (hn : SessionStore.changes es ≠ []) :
    s.sent < t.sent := by
  obtain ⟨k, hk, hr⟩ := h.changes
  rcases Nat.eq_zero_or_pos k with rfl | hpos
  · exact absurd (List.map_eq_nil_iff.mp hr) hn
  · omega

/-- A listener that is registered when the session is changed is told. -/
theorem Told.hears {f : Nat → List ((Nat × Listener σ) × Session)} (h : Told f s es) (he : e ∈ es)
    (hv : e.deed.change? = some (n, v)) (hid : id ∈ e.store.listeners.map (·.1)) :
    (n, v) ∈ heard id es := by
  obtain ⟨l, hl, rfl⟩ := List.mem_map.mp hid
  have hmem : (l, v) ∈ calls n es :=
    (h.told e he n v hv).mem_iff.mpr (List.mem_map.mpr ⟨l, hl, rfl⟩)
  obtain ⟨e', he', hd⟩ := mem_calls.mp hmem
  exact List.mem_filterMap.mpr ⟨e', he', Deed.heard?_eq_some.mpr ⟨l, hd, rfl⟩⟩

/-- No listener is called twice for a change. -/
theorem Told.nodup_called {f : Nat → List ((Nat × Listener σ) × Session)} (h : Told f s es)
    (hc : Course s es t) (hs : Numbered s) (he : e ∈ es) (hv : e.deed.change? = some (n, v)) :
    ((calls n es).map (·.1.1)).Nodup := by
  obtain ⟨xs, ys, rfl⟩ := List.append_of_mem he
  obtain ⟨u, hu, hd, _⟩ := hc.split
  have hperm := (h.told e he n v hv).map (·.1.1)
  rw [List.map_map] at hperm
  exact hperm.nodup_iff.mpr (hd.numbered (hu.numbered hs)).nodup

/-- The latest change is among those a listener hears of that stays. -/
theorem Told.hears_latest {f : Nat → List ((Nat × Listener σ) × Session)} (h : Told f s es)
    (hc : Course s es t) (hid : Stays id es) (hne : changes es ≠ []) :
    (t.sent, t.session) ∈ heard id es := by
  obtain ⟨bs, e, cs, ⟨n, v⟩, rfl, hv, hcs, _⟩ := exists_last hne
  have he : e ∈ bs ++ e :: cs := by simp
  obtain ⟨_, _, _, hrest⟩ := hc.split
  obtain ⟨rfl, rfl⟩ := hc.stored he hv
  obtain ⟨hsent, hsession⟩ := hrest.still hcs
  rw [hsent, hsession]
  exact h.hears he hv (hid e he)

/-- After the last call of a listener that stays, the session is not changed any more. -/
theorem Told.still_after_last {f : Nat → List ((Nat × Listener σ) × Session)}
    (h : Told f s (xs ++ e :: ys)) (hc : Course s (xs ++ e :: ys) t)
    (hid : Stays id (xs ++ e :: ys)) (hys : heard id ys = []) : changes ys = [] := by
  by_contra hne
  obtain ⟨u, hu, hd, hrest⟩ := hc.split
  have hto : Course s (xs ++ [e]) e.store := hu.trans (.step hd (.refl _))
  obtain ⟨x, hx⟩ := List.exists_mem_of_ne_nil _ hne
  obtain ⟨a, ha, hax⟩ := List.mem_filterMap.mp hx
  have hmem : a ∈ xs ++ e :: ys := by simp [ha]
  -- A later change would be told to the listener, and that only after it was made.
  have hheard := h.hears hmem hax (hid a hmem)
  have hlt := (hrest.number ha hax).1
  have hsplit : heard id (xs ++ e :: ys) = heard id (xs ++ [e]) ++ heard id ys := by
    simp [heard, ← List.filterMap_append]
  rw [hsplit, hys, List.append_nil] at hheard
  obtain ⟨b, hb, hbx⟩ := List.mem_filterMap.mp hheard
  obtain ⟨l, hcall, _⟩ := Deed.heard?_eq_some.mp hbx
  have hpast := h.past b (by simp at hb ⊢; tauto) _ l _ hcall
  have := hto.store_sent_le hb
  omega

/-- The session was changed again before the turn of a listener, so another one was called first. -/
theorem Told.overtaken {f : Nat → List ((Nat × Listener σ) × Session)} {a : Entry σ}
    {bs : List (Entry σ)} {l : Nat × Listener σ} {w : SessionStore σ} (h : Told f s es)
    (hf : Followed p es) (hp : ∀ c, p c → c.Fair) (hc : Course s es t) (hs : Numbered s)
    (hes : es = xs ++ a :: (bs ++ ⟨.call n l v, w⟩ :: ys)) (ha : a.deed.change? = some (n, v))
    (hid : l.1 ∈ a.store.listeners.map (·.1)) (hbs : changes bs ≠ []) : Overtaken l.1 n es := by
  obtain ⟨d, u⟩ := a
  obtain ⟨l₁, zs, hfirst⟩ := hf.first_call hp hes ha hid
  have hnodup := h.nodup_called hc hs (show ⟨d, u⟩ ∈ es by simp [hes]) ha
  cases bs with
  | nil => exact absurd rfl hbs
  | cons b bs =>
    simp only [List.cons_append, List.cons.injEq] at hfirst
    obtain ⟨rfl, -⟩ := hfirst
    subst hes
    refine ⟨xs ++ [⟨d, u⟩], bs, ys, l₁, l, v, u, w, by simp, ?_, rfl, hbs⟩
    intro heq
    have hsub : [(⟨.call n l₁ v, u⟩ : Entry σ), ⟨.call n l v, w⟩].Sublist
        (xs ++ ⟨d, u⟩ :: (⟨.call n l₁ v, u⟩ :: bs ++ ⟨.call n l v, w⟩ :: ys)) :=
      List.sublist_append_of_sublist_right
        (.cons _ (.cons_cons _ (List.singleton_sublist.mpr (by simp))))
    have hboth := hnodup.sublist ((hsub.filterMap (·.deed.call? n)).map (·.1.1))
    simp [Deed.call?, heq] at hboth

/-- What the listener `id` has heard when all has been done, and what it has heard last. -/
structure EndsOn (id : Nat) (es : List (Entry σ)) (t : SessionStore σ) : Prop where
  told : (t.sent, t.session) ∈ heard id es
  last : ∃ n v, (heard id es).getLast? = some (n, v) ∧ (n, v) ∈ changes es ∧
    (n = t.sent ∧ v = t.session ∨ n < t.sent ∧ Overtaken id n es)

theorem Run.endsOn (hp : ∀ c, p c → c.Fair) (h : Run p (.perform r) s es t) (hs : Numbered s)
    (hid : Stays id es) (hne : changes es ≠ []) : EndsOn id es t := by
  have hc := h.course
  have ht : Told (fun _ => []) s es := h.tells hp trivial
  have hf := h.followed
  have hmem := ht.hears_latest hc hid hne
  obtain ⟨xs, ⟨d, w⟩, ys, ⟨n, v⟩, hes, he, hys, hlast⟩ := exists_last (List.ne_nil_of_mem hmem)
  obtain ⟨l, rfl, rfl⟩ := Deed.heard?_eq_some.mp he
  subst hes
  have hstill := ht.still_after_last hc hid hys
  obtain ⟨a, ha, hax⟩ := List.mem_filterMap.mp (ht.called hc rfl)
  refine ⟨hmem, n, v, hlast, List.mem_filterMap.mpr ⟨a, List.mem_append_left _ ha, hax⟩, ?_⟩
  obtain ⟨as, bs, rfl⟩ := List.append_of_mem ha
  simp only [List.append_assoc, List.cons_append] at hc ht hf hid ⊢
  have hin : a ∈ as ++ a :: (bs ++ ⟨.call n l v, w⟩ :: ys) := by simp
  obtain ⟨hsent, hsession⟩ := hc.stored hin hax
  obtain ⟨_, _, _, hrest⟩ := hc.split
  have hchanges : changes (bs ++ ⟨.call n l v, w⟩ :: ys) = changes bs := by
    simpa [changes, Deed.change?] using hstill
  -- After the change of the last call, the session has changed again or it has not.
  by_cases hbs : changes bs = []
  · obtain ⟨hts, htv⟩ := hrest.still (hchanges.trans hbs)
    exact Or.inl ⟨hsent.symm.trans hts.symm, hsession.symm.trans htv.symm⟩
  · have hlt := hrest.sent_lt (hchanges ▸ hbs)
    exact Or.inr ⟨hsent.symm.trans_lt hlt, ht.overtaken hf hp hc hs rfl hax (hid a hin) hbs⟩

/-- Whatever is done with a store comes to an end if and only if it has a run. When it is over, each
listener that has stayed has heard the session stored then. It has heard it last, unless the session
was changed again between a change and the listener's turn among the calls for it; what it has heard
last is then the session of that earlier change. -/
theorem ends_on_stored_or_overtaken (r : Reaction σ) (t : SessionStore σ) (hs : Numbered s) :
    (∀ c, (∃ depth, SessionStore.perform (notify c depth) c.now r s = some t) ↔
      ∃ es, Run (· = c) (.perform r) s es t) ∧
    ∀ es, Run Calling.Fair (.perform r) s es t → ∀ id, Stays id es → changes es ≠ [] →
      EndsOn id es t :=
  ⟨fun _ => perform_iff_run, fun _ h _ hid hne => h.endsOn (fun _ hc => hc) hs hid hne⟩

/-- The first listener ends every visit at once, the second one only listens. -/
def doorkept : SessionStore Unit :=
  ((({ memory := () } : SessionStore Unit).subscribe turnAway).2.subscribe fun _ => .done).2

theorem numbered_doorkept : Numbered doorkept := by
  have hnew : Numbered ({ memory := () } : SessionStore Unit) :=
    ⟨List.nodup_nil, fun l hl => by cases hl⟩
  exact (hnew.subscribe _).subscribe _

/-- A visit begins. The second listener hears of its end before it hears of it. -/
theorem run_doorkept :
    ∃ es t v, Run Calling.Fair (.perform (.enter { owner := some 2, visitor := some 3 } .done))
      doorkept es t ∧ Stays 0 es ∧ Stays 1 es ∧ heard 0 es = [(1, v), (2, .inactive)] ∧
        heard 1 es = [(2, .inactive), (1, v)] ∧ v.active = true ∧ t.session = .inactive := by
  have hc : Calling.Fair ({ now := ⟨1, by decide, by decide⟩ } : Calling Unit) := fun _ => .refl _
  have h : Run Calling.Fair (.perform (.enter { owner := some 2, visitor := some 3 } .done))
      doorkept _ _ :=
    .enter hc
      (.call (.leave hc rfl (.call (.done _) (.call (.done _) (.told _ _ _))) (.done _))
        (.call (.done _) (.told _ _ _)))
      (.done _)
  refine ⟨_, _, _, h, ?_, ?_, rfl, rfl, rfl, rfl⟩
  · simp [Stays, doorkept, SessionStore.subscribe, replace]
  · simp [Stays, doorkept, SessionStore.subscribe, replace]

/-- The first listener ends on the session stored; the second one has been overtaken. -/
theorem ends_on_stored_or_overtaken_doorkept :
    Numbered doorkept ∧ ∃ es t v,
      Run Calling.Fair (.perform (.enter { owner := some 2, visitor := some 3 } .done)) doorkept es
        t ∧
      Stays 0 es ∧ Stays 1 es ∧ changes es ≠ [] ∧
      heard 0 es = [(1, v), (2, t.session)] ∧ EndsOn 0 es t ∧
      heard 1 es = [(2, t.session), (1, v)] ∧ EndsOn 1 es t := by
  obtain ⟨es, t, v, h, h₀, h₁, hfirst, hsecond, _, hsession⟩ := run_doorkept
  have hs := numbered_doorkept
  have hne : changes es ≠ [] := by
    cases h
    exact List.cons_ne_nil _ _
  have hends := (ends_on_stored_or_overtaken (.enter { owner := some 2, visitor := some 3 } .done)
    t hs).2 es h
  exact ⟨hs, es, t, v, h, h₀, h₁, hne, hsession ▸ hfirst, hends 0 h₀ hne, hsession ▸ hsecond,
    hends 1 h₁ hne⟩

/-- A listener that has stayed can hear an older session last than the one stored in the end. -/
theorem heard_last_outdated :
    ∃ es t v, Run Calling.Fair
        (.perform (.enter { owner := some 2, visitor := some 3 } .done)) doorkept es t ∧
      Stays 1 es ∧ (heard 1 es).getLast? = some (1, v) ∧ v ≠ t.session := by
  obtain ⟨es, t, v, h, _, h₁, _, hsecond, hv, hsession⟩ := run_doorkept
  refine ⟨es, t, v, h, h₁, by rw [hsecond]; rfl, fun heq => ?_⟩
  rw [heq, hsession] at hv
  cases hv

end SessionStore
end Companions
