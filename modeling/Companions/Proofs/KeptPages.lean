import Companions.Proofs.SingleWriter

/-! Pages in the cache of a backend that may carry a toggle out and yet answer with an error. After
such an answer a page that was asked for meanwhile is kept, although it may be out of date. -/
namespace Companions

variable {s t : Traffic} {a : Event} {e : Errand} {id : Int64} {ids : Set Int64}
  {held : Finset Int64} {xs ys : List Errand} {q : Quest}

/-- Each companion of the page has the flag that the backend holds. -/
def Page.Carries (held : Finset Int64) (p : Page) : Prop :=
  ∀ c ∈ p.companions, c.isFavorite = decide (c.id ∈ held)

instance (held : Finset Int64) (p : Page) : Decidable (p.Carries held) :=
  inferInstanceAs (Decidable (∀ c ∈ p.companions, c.isFavorite = decide (c.id ∈ held)))

/-- Favorites change through toggles alone, and a page carries those held as it is given. A toggle
is carried out or not, whatever its answer says. -/
def Unsure : Conduct
  | .page _ _, held, .ok page, held' => page.Carries held ∧ held' = held
  | .favorite id, held, _, held' => held' = held ∨ held' = flip id held
  | _, held, _, held' => held' = held

/-- A load whose page may still be kept: it holds the newest ticket, and its epoch goes on. -/
def Errand.MayKeep (s : Traffic) (e : Errand) : Prop :=
  (∃ n d, e.await = .page n d) ∧ e.ticket = s.tickets ∧ e.epoch = s.epochs

/-- The answer to a toggle arrives and is an error, although the backend has carried the toggle out,
while a load is under way whose page may still be kept. -/
def Misleads (id : Int64) (s : Traffic) : Event → Prop
  | .land e =>
    e.await = .favorite id ∧ e.flag? = none ∧ ¬(id ∈ s.held ↔ id ∈ e.before) ∧
      ∃ x ∈ s.errands, x.MayKeep s
  | _ => False

/-- A state that a run can reach in which only toggles of these companions mislead. -/
inductive Course (k : Conduct) (ids : Set Int64) : Traffic → Prop
  | initial {s : Traffic} (h : s.Initial) : Course k ids s
  | step {s t : Traffic} {a : Event} (h : Course k ids s) (hs : Step k s a t)
      (hm : ∀ id, Misleads id s a → id ∈ ids) : Course k ids t

/-- No toggle of the companion that is under way has been carried out. -/
def Still (id : Int64) (s : Traffic) : Prop :=
  ∀ e ∈ s.errands, e.await = .favorite id → (id ∈ s.held ↔ id ∈ e.before)

structure Faithful (ids : Set Int64) (s : Traffic) : Prop where
  kept : ∀ k ∈ s.catalog.cache.pages, ∀ c ∈ k.page.companions, c.id ∉ ids →
    c.isFavorite = decide (c.id ∈ s.held)
  unanswered : ∀ e ∈ s.errands, ∀ id, e.await = .favorite id → e.answer = none →
    (id ∈ s.held ↔ id ∈ e.before)
  page : ∀ e ∈ s.errands, e.MayKeep s → ∀ p taken, e.page? = some (p, taken) →
    p.Carries taken ∧ ∀ id, id ∉ ids → Still id s → (id ∈ taken ↔ id ∈ s.held)

/-- Steps in which the backend does nothing: the errands are those from before, or new. -/
theorem Faithful.of_errands (h : Faithful ids s)
    (hc : ∀ k ∈ t.catalog.cache.pages, k ∈ s.catalog.cache.pages) (hh : t.held = s.held)
    (hk : ∀ e ∈ s.errands, e.MayKeep t →
      e.MayKeep s ∧ ∀ id, id ∉ ids → Still id t → Still id s)
    (he : ∀ e ∈ t.errands, e ∈ s.errands ∨
      e.answer = none ∧ ∀ id, e.await = .favorite id → (id ∈ s.held ↔ id ∈ e.before)) :
    Faithful ids t := by
  refine ⟨?_, ?_, ?_⟩
  · intro k hm c hcm hid
    rw [hh]
    exact h.kept k (hc k hm) c hcm hid
  · intro e hm id hw ha
    rw [hh]
    rcases he e hm with hm | ⟨_, hb⟩
    · exact h.unanswered e hm id hw ha
    · exact hb id hw
  · intro e hm hkeep p taken hp
    rw [hh]
    rcases he e hm with hm | ⟨ha, _⟩
    · obtain ⟨hkeep, hstill⟩ := hk e hm hkeep
      obtain ⟨hcarries, htaken⟩ := h.page e hm hkeep p taken hp
      exact ⟨hcarries, fun id hid hs => htaken id hid (hstill id hid hs)⟩
    · simp [Errand.page?, ha] at hp

theorem Still.of_errands (h : Still id t) (hh : t.held = s.held)
    (he : ∀ e ∈ s.errands, e.await = .favorite id → e ∈ t.errands) : Still id s := by
  intro e hm hw
  rw [← hh]
  exact h e (he e hm hw) hw

/-- An errand is over. If it was a toggle, the backend has not carried it out, or no page asked for
meanwhile can be kept. -/
theorem Faithful.drop (h : Faithful ids s) (hs : s.errands = xs ++ e :: ys)
    (hf : ∀ id, id ∉ ids → e.await = .favorite id → (∃ x ∈ s.errands, x.MayKeep s) →
      (id ∈ s.held ↔ id ∈ e.before)) :
    Faithful ids { s with errands := xs ++ ys } := by
  refine h.of_errands (fun _ hk => hk) rfl (fun x hx hkeep => ⟨hkeep, fun id hid hstill => ?_⟩)
    fun x hx => Or.inl (mem_of_drop hs x hx)
  intro y hy hw
  have hy' := hy
  rw [hs] at hy'
  rcases List.mem_append.mp hy' with hm | hm
  · exact hstill y (List.mem_append_left _ hm) hw
  · rcases List.mem_cons.mp hm with rfl | hm
    · exact hf id hid hw ⟨x, hx, hkeep⟩
    · exact hstill y (List.mem_append_right _ hm) hw

/-- In a new epoch no page asked for before can be kept. -/
theorem Faithful.epoch (h : Faithful ids s) (ht : Ticketed s)
    (hc : ∀ k ∈ t.catalog.cache.pages, k ∈ s.catalog.cache.pages) (hh : t.held = s.held)
    (hk : t.epochs = s.epochs + 1)
    (he : ∀ e ∈ t.errands, e ∈ s.errands ∨
      e.answer = none ∧ ∀ id, e.await = .favorite id → (id ∈ s.held ↔ id ∈ e.before)) :
    Faithful ids t := by
  refine h.of_errands hc hh (fun e hm hkeep => ?_) he
  have := (ht.le e hm).2
  have := hkeep.2.2
  omega

theorem Faithful.seek (h : Faithful ids s) (ht : Ticketed s) (ho : s.catalog.Offers q) :
    Faithful ids (s.seek q) := by
  have hold : ∀ e ∈ s.errands, ¬e.MayKeep (s.seek q) := by
    intro e hm hkeep
    exact ht.ticket_ne hm hkeep.2.1
  have hs := Traffic.seek_sought ho
  generalize s.seek q = t at hs hold
  cases hs with
  | hit hq hg =>
    exact h.of_errands (fun _ hk => PageCache.mem_of_mem_get hk) rfl
      (fun e hm hkeep => (hold e hm hkeep).elim) fun _ hm => Or.inl hm
  | ask hc =>
    refine h.of_errands (fun _ hk => PageCache.mem_of_eq_or_get hc hk) rfl
      (fun e hm hkeep => (hold e hm hkeep).elim) fun e hm => ?_
    rcases List.mem_append.mp hm with hm | hm
    · exact Or.inl hm
    · rw [List.mem_singleton.mp hm]
      exact Or.inr ⟨rfl, fun _ _ => Iff.rfl⟩

/-- If the backend has carried no toggle of a companion out once it has answered an errand, then it
had not before, and the flag is the one from before. -/
theorem Still.of_answer {reply : e.await.Reply} (h : Faithful ids s)
    (hs : s.errands = xs ++ e :: ys) (ha : e.answer = none)
    (hk : ∀ id, e.await ≠ .favorite id → (id ∈ held ↔ id ∈ s.held))
    (hstill : Still id { s with
      errands := xs ++ { e with answer := some (reply, s.held) } :: ys
      held }) :
    (id ∈ held ↔ id ∈ s.held) ∧ Still id s := by
  have hmem : e ∈ s.errands := by simp [hs]
  have hsame : id ∈ held ↔ id ∈ s.held := by
    by_cases hw : e.await = .favorite id
    · have := hstill { e with answer := some (reply, s.held) } (by simp) hw
      exact this.trans (h.unanswered e hmem id hw ha).symm
    · exact hk id hw
  refine ⟨hsame, fun y hy hw => ?_⟩
  rw [hs] at hy
  rcases mem_of_replace rfl y hy with hy | rfl
  · exact hsame.symm.trans (hstill y hy hw)
  · exact h.unanswered y hmem id hw ha

/-- The backend answers. Only the flag of a toggle that it answers can change. -/
theorem Faithful.answer {reply : e.await.Reply} (h : Faithful ids s) (he : Engaged s)
    (hs : s.errands = xs ++ e :: ys) (ha : e.answer = none)
    (hk : ∀ id, e.await ≠ .favorite id → (id ∈ held ↔ id ∈ s.held))
    (hp : ∀ p, e.await.page? reply = some p → (∃ n d, e.await = .page n d) →
      p.Carries s.held) :
    Faithful ids { s with
      errands := xs ++ { e with answer := some (reply, s.held) } :: ys
      held } := by
  have hmem : e ∈ s.errands := by simp [hs]
  refine ⟨?_, ?_, ?_⟩
  · intro k hm c hc hid
    have hw : e.await ≠ .favorite c.id := by
      intro hw
      rw [he.pages_eq_nil hmem hw] at hm
      cases hm
    simp only [h.kept k hm c hc hid, hk c.id hw]
  · intro x hx id hw hans
    have hx' : x ∈ xs ++ ys := by
      simp only [List.mem_append, List.mem_cons] at hx ⊢
      rcases hx with hx | rfl | hx
      · exact Or.inl hx
      · cases hans
      · exact Or.inr hx
    have hne : e.await ≠ .favorite id := by
      intro he'
      obtain ⟨r, w, answer, ticket, epoch, before⟩ := e
      simp only at he'
      subst he'
      exact (he.other_id hs).2 x hx' hw
    simp only [hk id hne]
    exact h.unanswered x (mem_of_drop hs x hx') id hw hans
  · intro x hx hkeep p taken hpt
    rcases mem_of_replace hs x hx with hx | rfl
    · obtain ⟨hcarries, htaken⟩ := h.page x hx hkeep p taken hpt
      refine ⟨hcarries, fun id hid hstill => ?_⟩
      obtain ⟨hsame, hstill⟩ := hstill.of_answer h hs ha hk
      exact (htaken id hid hstill).trans hsame.symm
    · simp only [Errand.page?, Option.bind_some, Option.map_eq_some_iff, Prod.mk.injEq] at hpt
      obtain ⟨p', hp', rfl, rfl⟩ := hpt
      refine ⟨hp p' hp' hkeep.1, fun id _ _ => ?_⟩
      obtain ⟨n, d, hw⟩ := hkeep.1
      exact (hk id fun hw' => by rw [hw] at hw'; cases hw').symm

theorem Unsure.mem_iff {w : Await} {reply : w.Reply} (h : Unsure w s.held reply held)
    (hw : w ≠ .favorite id) : id ∈ held ↔ id ∈ s.held := by
  cases w with
  | page n d => cases reply with
    | ok p => rw [h.2]
    | error b => rw [h]
  | favorite id' =>
    have hne : id ≠ id' := fun he => hw (by rw [he])
    rcases h with rfl | rfl
    · rfl
    · rw [mem_flip, if_neg hne]
  | _ => rw [h]

theorem faithful_initial (h : s.Initial) : Faithful ids s := by
  obtain ⟨_, _, _, _, _, _, rfl⟩ := h
  exact ⟨nofun, by simp, by simp⟩

theorem faithful_step (ht : Ticketed s) (he : Engaged s) (hs : Faithful ids s)
    (h : Step Unsure s a t) (hm : ∀ id, Misleads id s a → id ∈ ids) :
    Faithful ids t := by
  cases h.move with
  | seek f hq ho =>
    have hl : Faithful ids (s.leaving f) := { hs with }
    exact hl.seek { ht with } ho
  | refuse id => exact hs
  | toggle hp hb =>
    refine hs.epoch ht (fun k hk => by cases hk) rfl rfl fun e hx => ?_
    rcases List.mem_append.mp hx with hx | hx
    · exact Or.inl hx
    · rw [List.mem_singleton.mp hx]
      exact Or.inr ⟨rfl, fun _ _ => Iff.rfl⟩
  | send op r hw _ =>
    refine hs.of_errands (fun _ hk => hk) rfl (fun e hx hkeep => ⟨hkeep, fun id _ hstill => ?_⟩)
      fun e hx => ?_
    · exact hstill.of_errands rfl fun y hy _ => List.mem_append_left _ hy
    · rcases List.mem_append.mp hx with hx | hx
      · exact Or.inl hx
      · rw [List.mem_singleton.mp hx]
        exact Or.inr ⟨rfl, fun _ _ => Iff.rfl⟩
  | @answer xs ys e reply held hx ha hk =>
    refine hs.answer he hx ha (fun id hw => hk.mem_iff hw) fun p hp hpage => ?_
    obtain ⟨r, w, answer, ticket, epoch, before⟩ := e
    obtain ⟨n, d, rfl⟩ := hpage
    cases reply with
    | ok page =>
      cases hp
      exact hk.1
    | error b => cases hp
  | @land xs ys e reply taken n c hx ha hp hw hl =>
    have hd := hs.drop hx fun id _ hid => by
      rw [hid] at hw
      cases hw
    cases hl with
    | stale => exact { hd with }
    | failed => exact { hd with }
    | @shown p cache counted hn hpage hcache _ =>
      subst hn
      refine { hd with kept := ?_ }
      rcases hcache with rfl | ⟨hc, d, hd', rfl⟩
      · exact hs.kept
      · have hmem : e ∈ s.errands := by simp [hx]
        have hnew := ht.ticket_eq hmem hp hw
        have hepoch := ht.epoch_eq hmem hp (by simp [Errand.HasTicket, hw]) hnew hc
        have hpt : e.page? = some (p, taken) := by simp [Errand.page?, ha, hpage]
        obtain ⟨hcarries, htaken⟩ := hs.page e hmem ⟨⟨_, d, hd'⟩, hnew, hepoch⟩ p taken hpt
        -- No toggle is under way, so nothing has been carried out since the page was given.
        have hstill : ∀ id, Still id s := by
          intro id y hy hw'
          refine absurd ?_ (he.pendingFor?_ne_none hy hw')
          simp only [Catalog.cacheable, Bool.and_eq_true, List.isEmpty_iff] at hc
          simp [Catalog.pendingFor?, hc.1]
        intro k hk x hxk hid
        rcases PageCache.mem_set hk with rfl | hk
        · rw [hcarries x hxk, decide_eq_decide]
          exact htaken x.id hid (hstill x.id)
        · exact hs.kept k hk x hxk hid
  | confirm hx hp =>
    exact hs.epoch ht (fun _ hk => hk) rfl rfl fun y hy => Or.inl (mem_of_drop hx y hy)
  | rollBack hx hp =>
    have hd := hs.drop hx fun id hid hw hload => by
      by_contra hdone
      exact hid (hm id ⟨hw, rfl, hdone, hload⟩)
    exact { hd with }
  | @reorder xs ys e hx hw =>
    have hd := hs.drop hx fun id _ hid => by
      rw [hw] at hid
      cases hid
    have htd := ht.drop hx
    exact Faithful.seek { hd with kept := fun _ hk => by cases hk } { htd with }
      (Catalog.offers_of_load rfl)
  | @drop xs ys e hx hw hf =>
    refine hs.drop hx fun id _ hid => ?_
    have hmem : e ∈ s.errands := by simp [hx]
    exact absurd (hf id (Await.favorite?_eq_some.mpr hid)) (he.pendingFor?_ne_none hmem hid)
  | wait span => exact { hs with }
  | outdate =>
    exact hs.epoch ht (fun k hk => by cases hk) rfl rfl fun _ hx => Or.inl hx
  | evict hp => exact { hs with kept := fun k hk => hs.kept k (hp.subset hk) }

theorem Course.fresh (k : Conduct) (ids : Set Int64) (held : Finset Int64) :
    Course k ids (.fresh held) :=
  .initial (Traffic.initial_fresh held)

theorem faithful_course (h : Course Unsure ids s) : Ticketed s ∧ Engaged s ∧ Faithful ids s := by
  induction h with
  | initial h => exact ⟨ticketed_initial h, engaged_initial h, faithful_initial h⟩
  | step _ hs hm ih =>
    obtain ⟨ht, he, hf⟩ := ih
    exact ⟨ticketed_step ht hs, engaged_step he hs, faithful_step ht he hf hs hm⟩

/-- Each page in the cache has the flags that the backend holds, but for companions of which a
toggle was carried out while its answer was an error, with a load under way since the toggle. -/
theorem kept_flags_held (h : Course Unsure ids s) :
    ∀ k ∈ s.catalog.cache.pages, ∀ c ∈ k.page.companions, c.id ∉ ids →
      c.isFavorite = decide (c.id ∈ s.held) :=
  (faithful_course h).2.2.kept

/-- Ann is turned over by a call that ends with an error, while a page read before is on its way.
That page is kept: Ann's flag on it is out of date, and Bob's is good. -/
theorem kept_flags_held_but_one :
    ∃ s, Course Unsure {1} s ∧ s.held = {1, 2} ∧
      s.catalog.cache.pages.map (·.page.companions.map fun c => (c.id, c.isFavorite)) =
        [[(1, false), (2, true)]] ∧
      ∀ k ∈ s.catalog.cache.pages, ∀ c ∈ k.page.companions, c.id ∉ ({1} : Set Int64) →
        c.isFavorite = decide (c.id ∈ s.held) := by
  have hpage : Page.annAndBob.Carries {2} := by decide
  have h := (Course.fresh Unsure {1} {2}).step (.start _ (.load {})) nofun
  have h := h.step
    (@Step.answer _ _ [] [] _ (.ok Page.annAndBob) {2} rfl rfl (by exact ⟨hpage, rfl⟩)) nofun
  have h := h.step (@Step.land _ _ [] [] _ _ _ rfl rfl fun _ => ⟨by decide, by decide⟩)
    fun id hm => by cases hm.1
  have h := h.step (.start _ (.toggle 1)) nofun
  have h := h.step (.start _ .reload) nofun
  have h := h.step
    (@Step.answer _ _ [_] [] _ (.ok Page.annAndBob) {2} rfl rfl (by exact ⟨hpage, rfl⟩)) nofun
  have h := h.step (@Step.answer _ _ [] [_] _ (.error (.timeout 20)) _ rfl rfl
    (by exact Or.inr rfl)) nofun
  have h := h.step (@Step.land _ _ [] [_] _ _ _ rfl rfl nofun)
    fun id hm => by cases hm.1; exact rfl
  have h := h.step (@Step.land _ _ [] [] _ _ _ rfl rfl fun _ => ⟨by decide, by decide⟩)
    fun id hm => by cases hm.1
  exact ⟨_, h, by decide +kernel, by decide +kernel, kept_flags_held h⟩

/-- A page in the cache can be out of date with no toggle under way. -/
theorem kept_page_outdated :
    ∃ s, Reachable Unsure s ∧ s.catalog.pending = [] ∧
      ∃ k ∈ s.catalog.cache.pages, ∃ c ∈ k.page.companions,
        c.isFavorite ≠ decide (c.id ∈ s.held) := by
  have hpage : Page.Carries ∅ ⟨[{ id := 1, name := "Ann" }], 1, 0, 0⟩ := by decide
  have h := (Reachable.fresh Unsure ∅).step (.start _ (.load {}))
  have h := h.step (@Step.answer _ _ [] [] _ (.ok _) ∅ rfl rfl (by exact ⟨hpage, rfl⟩))
  have h := h.step (@Step.land _ _ [] [] _ _ _ rfl rfl fun _ => ⟨by decide, by decide⟩)
  have h := h.step (.start _ (.toggle 1))
  have h := h.step (.start _ .reload)
  have h := h.step (@Step.answer _ _ [_] [] _ (.ok _) ∅ rfl rfl (by exact ⟨hpage, rfl⟩))
  have h := h.step (@Step.answer _ _ [] [_] _ (.error (.timeout 20)) _ rfl rfl
    (by exact Or.inr rfl))
  have h := h.step (@Step.land _ _ [] [_] _ _ _ rfl rfl nofun)
  have h := h.step (@Step.land _ _ [] [] _ _ _ rfl rfl fun _ => ⟨by decide, by decide⟩)
  exact ⟨_, h, by rfl, by decide +kernel⟩

end Companions
