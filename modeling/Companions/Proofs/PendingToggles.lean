import Companions.Proofs.LateReplies

/-! The toggles without an answer. They are those whose calls are under way, each is on show with
its optimistic flag, and as long as there is one no page is kept. -/
namespace Companions

variable {k : Conduct} {s t : Traffic} {a : Event} {e : Errand} {q : Quest} {c : Catalog}
  {id : Int64} {xs ys : List Errand} {r : Roster} {log : List (Int64 × Bool)} {toggle : Toggle}

theorem Catalog.mem_of_pendingFor? (h : c.pendingFor? id = some toggle) :
    toggle ∈ c.pending ∧ toggle.id = id :=
  ⟨List.mem_of_find?_eq_some h, by simpa using List.find?_some h⟩

theorem Catalog.pendingFor?_of_mem (hn : (c.pending.map (·.id)).Nodup)
    (h : toggle ∈ c.pending) : c.pendingFor? toggle.id = some toggle :=
  find?_of_nodup _ hn h

theorem Catalog.pendingFor?_eq_none : c.pendingFor? id = none ↔ id ∉ c.pending.map (·.id) := by
  simp [pendingFor?, List.find?_eq_none]

/-- A list that is shown has each flag from the toggle without an answer, else from the answers
since the request, else from the page. -/
theorem Catalog.flag?_reconcile (hn : (c.pending.map (·.id)).Nodup) :
    (reconcile log c.pending r).flag? id =
      (r.flag? id).map fun b =>
        (((c.pendingFor? id).map (·.optimistic)).or (Roster.latest? id log)).getD b := by
  rw [reconcile_eq_marks, Roster.flag?_marks, Roster.latest?_append, Toggle.latest?_asMark hn]
  rfl

theorem Toggle.confirm_applied {v : Bool} (h : toggle.phase = .applied) :
    (toggle.confirm v r).2 = r.mark toggle.id v := by
  simp [confirm, h]

theorem Toggle.rollBack_applied (h : toggle.phase = .applied) :
    (toggle.rollBack r).2 = r.mark toggle.id toggle.former := by
  simp [rollBack, h]

theorem Toggle.confirm_settled {v : Bool} (h : toggle.phase ≠ .applied) :
    toggle.confirm v r = (toggle, r) := by
  simp [confirm, h]

theorem Toggle.rollBack_settled (h : toggle.phase ≠ .applied) : toggle.rollBack r = (toggle, r) := by
  simp [rollBack, h]

structure Engaged (s : Traffic) : Prop where
  ids : s.catalog.pending.map (·.id) = s.errands.filterMap (·.await.favorite?)
  nodup : (s.catalog.pending.map (·.id)).Nodup
  applied : ∀ t ∈ s.catalog.pending, t.phase = .applied
  cache : s.catalog.pending ≠ [] → s.catalog.cache.pages = []
  shown : ∀ t ∈ s.catalog.pending, ∀ b, s.catalog.shown.roster.flag? t.id = some b →
    b = t.optimistic

theorem Engaged.shown_reconcile {b : Bool} (h : Engaged s) (ht : toggle ∈ s.catalog.pending)
    (hb : (Catalog.reconcile log s.catalog.pending r).flag? toggle.id = some b) :
    b = toggle.optimistic := by
  rw [Catalog.flag?_reconcile h.nodup, Catalog.pendingFor?_of_mem h.nodup ht] at hb
  obtain ⟨b', _, rfl⟩ := Option.map_eq_some_iff.mp hb
  simp

/-- An errand that carries no toggle makes no difference. -/
theorem Engaged.drop (h : Engaged s) (hs : s.errands = xs ++ e :: ys)
    (he : e.await.favorite? = none) : Engaged { s with errands := xs ++ ys } := by
  have := h.ids
  exact { h with ids := by simpa [hs, he] using this }

theorem Engaged.seek (h : Engaged s) (ho : s.catalog.Offers q) : Engaged (s.seek q) := by
  have hcache {cache : PageCache}
      (hc : cache = s.catalog.cache ∨ cache = (s.catalog.cache.get s.now q.view).2)
      (hp : s.catalog.pending ≠ []) : cache.pages = [] := by
    refine List.eq_nil_iff_forall_not_mem.mpr fun x hx => ?_
    have := PageCache.mem_of_eq_or_get hc hx
    simp [h.cache hp] at this
  have hs := Traffic.seek_sought ho
  generalize s.seek q = t at hs
  cases hs with
  | hit hq hg =>
    exact ⟨h.ids, h.nodup, h.applied, hcache (Or.inr rfl), fun t ht b => h.shown_reconcile ht⟩
  | ask hc =>
    refine ⟨?_, h.nodup, h.applied, hcache hc, h.shown⟩
    have hw : (s.catalog.awaitFor q).favorite? = none := by
      unfold Catalog.awaitFor
      split <;> rfl
    have := h.ids
    simp only [List.filterMap_append, List.filterMap_cons, hw, List.filterMap_nil,
      List.append_nil]
    exact this

/-- The toggle of an id is over: those of other ids stay, and their flags with them. -/
theorem Engaged.settle {r : Request} {answer} {ticket epoch : Nat} {before : Finset Int64}
    (h : Engaged s) (hs : s.errands = xs ++ ⟨r, .favorite id, answer, ticket, epoch, before⟩ :: ys)
    (v : Bool) :
    Engaged { s with
      catalog := s.catalog.settled id (s.catalog.shown.roster.mark id v)
      errands := xs ++ ys } := by
  have hids := h.ids
  have hn := h.nodup
  simp only [hs, List.filterMap_append, List.filterMap_cons, Await.favorite?_favorite] at hids
  rw [hids] at hn
  have hx : ∀ x ∈ xs.filterMap (·.await.favorite?) ++ ys.filterMap (·.await.favorite?), x ≠ id := by
    have := List.nodup_middle.mp hn
    exact fun x hx he => (List.nodup_cons.mp this).1 (he ▸ hx)
  refine ⟨?_, ?_, ?_, ?_, ?_⟩
  · have hf : (s.catalog.pending.filter fun t => t.id != id).map (·.id) =
        (s.catalog.pending.map (·.id)).filter (· != id) := by
      rw [List.filter_map]
      rfl
    simp only [Catalog.settled, hf, hids, List.filterMap_append, List.filter_append,
      List.filter_cons, bne_self_eq_false, Bool.false_eq_true, if_false]
    rw [← List.filter_append, List.filter_eq_self]
    exact fun x hm => by simpa using hx x hm
  · exact (h.nodup.sublist ((List.filter_sublist).map _))
  · exact fun t ht => h.applied t (List.mem_filter.mp ht).1
  · exact fun hp => h.cache fun he => hp (by simp [Catalog.settled, he])
  · intro t ht b hb
    obtain ⟨ht, hne⟩ := List.mem_filter.mp ht
    simp only [Catalog.settled, Roster.flag?_mark] at hb
    rw [if_neg (by simpa using hne)] at hb
    exact h.shown t ht b hb

/-- A load or a search is answered. -/
theorem Engaged.landing (h : Engaged s) (hl : LateLanding s e t) : Engaged t := by
  obtain ⟨hs, ht, hl⟩ := hl
  have hf : e.await.favorite? = none := by
    cases hw : e.await <;> simp [hw, Await.ticket?] at ht <;> rfl
  have hd := h.drop hs hf
  cases hl with
  | stale => exact { hd with }
  | failed => exact { hd with }
  | shown _ _ hc _ =>
    refine ⟨hd.ids, hd.nodup, hd.applied, fun hne => ?_, fun t ht b => h.shown_reconcile ht⟩
    rcases hc with rfl | ⟨hc, _⟩
    · exact h.cache hne
    · -- A page is stored only while no toggle waits for its answer.
      simp only [Catalog.cacheable, Bool.and_eq_true, List.isEmpty_iff] at hc
      exact absurd hc.1 hne

theorem engaged_initial (h : s.Initial) : Engaged s := by
  obtain ⟨_, _, _, _, _, _, rfl⟩ := h
  exact ⟨rfl, .nil, nofun, fun _ => rfl, nofun⟩

theorem engaged_step (hs : Engaged s) (h : Step k s a t) : Engaged t := by
  cases h.move with
  | seek f hq ho =>
    have hl : Engaged (s.leaving f) := { hs with }
    exact hl.seek ho
  | refuse id => exact hs
  | @toggle id b hp hb =>
    have hnew := Catalog.pendingFor?_eq_none.mp hp
    refine ⟨?_, ?_, ?_, fun _ => rfl, ?_⟩
    · simp [Catalog.toggled, Catalog.outdate, Catalog.publish, hs.ids]
    · simp only [Catalog.toggled, Catalog.outdate, Catalog.publish, List.map_append,
        List.map_cons, List.map_nil]
      exact List.nodup_append.mpr ⟨hs.nodup, by simp, by
        intro x hx y hy
        rw [List.mem_singleton.mp hy]
        exact fun he => hnew (he ▸ hx)⟩
    · intro t ht
      rcases List.mem_append.mp ht with ht | ht
      · exact hs.applied t ht
      · rw [List.mem_singleton.mp ht]
    · intro t ht b' hb'
      simp only [Catalog.toggled, Catalog.outdate, Catalog.publish, Roster.flag?_mark] at hb'
      rcases List.mem_append.mp ht with ht | ht
      · have hne : t.id ≠ id := fun he => hnew (he ▸ List.mem_map_of_mem ht)
        rw [if_neg hne] at hb'
        exact hs.shown t ht b' hb'
      · rw [List.mem_singleton.mp ht] at hb' ⊢
        rw [if_pos rfl, hb] at hb'
        exact (Option.some.inj hb').symm
  | send op r ht hf =>
    exact { hs with ids := by simpa [hf] using hs.ids }
  | answer he ha hk =>
    have := hs.ids
    simp only [he, List.filterMap_append, List.filterMap_cons] at this
    exact { hs with ids := by simpa only [List.filterMap_append, List.filterMap_cons] using this }
  | land he ha hp ht hl => exact hs.landing (.mk he ht hl)
  | @confirm _ _ _ _ f _ _ _ _ toggle he ht =>
    obtain ⟨hm, hid⟩ := Catalog.mem_of_pendingFor? ht
    rw [Toggle.confirm_applied (hs.applied _ hm), hid]
    have hd := hs.settle he f.isSome
    exact { hd with }
  | @rollBack _ _ _ _ _ _ _ _ _ toggle he ht =>
    obtain ⟨hm, hid⟩ := Catalog.mem_of_pendingFor? ht
    rw [Toggle.rollBack_applied (hs.applied _ hm), hid]
    have hd := hs.settle he toggle.former
    exact { hd with }
  | @reorder xs ys e he hw =>
    have hd := hs.drop he (by rw [hw]; rfl)
    exact Engaged.seek { hd with cache := fun _ => rfl } (Catalog.offers_of_load rfl)
  | @drop xs ys e he ht hf =>
    refine hs.drop he ?_
    cases hw : e.await.favorite? with
    | none => rfl
    | some id =>
      refine absurd ?_ (Catalog.pendingFor?_eq_none.mp (hf id hw))
      rw [hs.ids, he]
      simp [hw]
  | wait span => exact { hs with }
  | outdate => exact { hs with cache := fun _ => rfl }
  | evict hp => exact { hs with cache := fun hne => List.sublist_nil.mp (hs.cache hne ▸ hp) }

theorem engaged_lateStep (hs : Engaged s) (h : LateStep k s a t) : Engaged t := by
  rcases h.step_or_landing with h | ⟨e, rfl, hl⟩
  · exact engaged_step hs h
  · exact hs.landing hl

theorem engaged_lateReachable (h : LateReachable k s) : Engaged s :=
  h.invariant (fun _ => engaged_initial) fun _ _ _ => engaged_lateStep

theorem Engaged.pendingFor?_ne_none (h : Engaged s) (he : e ∈ s.errands)
    (hw : e.await = .favorite id) : s.catalog.pendingFor? id ≠ none := by
  rw [ne_eq, Catalog.pendingFor?_eq_none, not_not, h.ids, List.mem_filterMap]
  exact ⟨e, he, by rw [hw]; rfl⟩

/-- As long as a toggle is under way, there is no page. -/
theorem Engaged.pages_eq_nil (h : Engaged s) (he : e ∈ s.errands) (hw : e.await = .favorite id) :
    s.catalog.cache.pages = [] := by
  obtain ⟨toggle, ht⟩ := Option.ne_none_iff_exists'.mp (h.pendingFor?_ne_none he hw)
  exact h.cache (List.ne_nil_of_mem (Catalog.mem_of_pendingFor? ht).1)

theorem Catalog.settleToggle_ne_notFound (h : c.pendingFor? id ≠ none)
    (reply : Except BackendError (Option Favorite)) :
    (c.settleToggle id reply).2 ≠ .ok .notFound := by
  obtain ⟨toggle, ht⟩ := Option.ne_none_iff_exists'.mp h
  cases reply <;> simp [settleToggle_ok ht, settleToggle_error ht]

/-- The toggles without an answer are those whose calls are under way, one for each companion, so
that each answer finds its toggle. Their companions are shown with the optimistic flag, on whatever
list is on show, and as long as there is a toggle no page is kept. -/
theorem toggles_under_way (h : LateReachable k s) :
    s.catalog.pending.map (·.id) = s.errands.filterMap (·.await.favorite?) ∧
    (s.catalog.pending.map (·.id)).Nodup ∧
    (∀ e ∈ s.errands, ∀ id, e.await = .favorite id →
      ∀ reply, (s.catalog.settleToggle id reply).2 ≠ .ok .notFound) ∧
    (∀ t ∈ s.catalog.pending, t.phase = .applied ∧
      ∀ x, s.catalog.shown.roster.find? t.id = some x → x.isFavorite = t.optimistic) ∧
    (s.catalog.pending ≠ [] → s.catalog.cache.pages = []) := by
  have he := engaged_lateReachable h
  refine ⟨he.ids, he.nodup, fun e hm id hw => ?_, fun t ht => ⟨he.applied t ht, fun x hx => ?_⟩,
    he.cache⟩
  · exact Catalog.settleToggle_ne_notFound (he.pendingFor?_ne_none hm hw)
  · exact he.shown t ht _ (by simp [Roster.flag?, hx])

/-- Ann and Bob are turned over, and a search finds Ann twice as she was before. -/
theorem toggles_under_way_found_twice :
    ∃ s, LateReachable (fun _ _ _ _ => True) s ∧
      s.catalog.shown.companions.map (fun x => (x.id, x.isFavorite)) = [(1, true), (1, false)] ∧
      s.catalog.pending.map (·.id) = [1, 2] ∧
      s.catalog.pending.map (·.id) = s.errands.filterMap (·.await.favorite?) ∧
      (s.catalog.pending.map (·.id)).Nodup ∧
      (∀ e ∈ s.errands, ∀ id, e.await = .favorite id →
        ∀ reply, (s.catalog.settleToggle id reply).2 ≠ .ok .notFound) ∧
      (∀ t ∈ s.catalog.pending, t.phase = .applied ∧
        ∀ x, s.catalog.shown.roster.find? t.id = some x → x.isFavorite = t.optimistic) ∧
      (s.catalog.pending ≠ [] → s.catalog.cache.pages = []) := by
  have h := (LateReachable.fresh (fun _ _ _ _ => True) ∅).step (.step (.start _ (.load {})))
  have h := h.step (.step (@Step.answer _ _ [] [] _
    (.ok (⟨[{ id := 1, name := "Ann" }, { id := 2, name := "Bob" }], 2, 0, 0⟩ : Page)) ∅
    rfl rfl trivial))
  have h := h.step (@LateStep.land _ _ [] [] _ _ _ rfl rfl)
  have h := h.step (.step (.start _ (.toggle 1)))
  have h := h.step (.step (.start _ (.toggle 2)))
  have h := h.step (.step (.start _ (.search "a")))
  have h := h.step (.step (@Step.answer _ _ [_, _] [] _
    (.ok (⟨[{ id := 1, name := "Ann" }, { id := 1, name := "Ann" }], 2, 0, 0⟩ : Page)) ∅
    rfl rfl trivial))
  have h := h.step (@LateStep.land _ _ [_, _] [] _ _ _ rfl rfl)
  exact ⟨_, h, by decide +kernel, by decide +kernel, toggles_under_way h⟩

end Companions
