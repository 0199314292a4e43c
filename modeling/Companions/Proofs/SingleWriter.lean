import Companions.Proofs.PendingToggles
import Companions.Proofs.Tickets

/-! A backend whose favorites are changed by this catalog alone. Whatever is under way, each flag on
show is the one that the backend holds, but for toggles without an answer. -/
namespace Companions

/-- The favorites with one flag turned over. -/
def flip (id : Int64) (held : Finset Int64) : Finset Int64 :=
  if id ∈ held then held.erase id else insert id held

/-- A page of different companions with the flags that the backend holds. -/
structure Page.Shows (held : Finset Int64) (p : Page) : Prop where
  nodup : (p.companions.map (·.id)).Nodup
  flag : ∀ c ∈ p.companions, c.isFavorite = decide (c.id ∈ held)

/-- Favorites change through toggles alone. One that succeeds turns the flag over and brings the new
one, one that fails changes nothing, and `query` and `search` say how a page agrees with the
favorites held as it is given. -/
def SingleWriter (query search : Finset Int64 → Page → Prop) : Conduct
  | .page _ _, held, .ok page, held' => query held page ∧ held' = held
  | .found _, held, .ok page, held' => search held page ∧ held' = held
  | .favorite id, held, .ok favorite, held' =>
    favorite.isSome = decide (id ∉ held) ∧ held' = flip id held
  | _, held, _, held' => held' = held

namespace Errand

/-- The page on its way, with the favorites held when it was given. -/
def page? (e : Errand) : Option (Page × Finset Int64) :=
  e.answer.bind fun a => (e.await.page? a.1).map (·, a.2)

/-- The new flag on its way. -/
def flag? (e : Errand) : Option Bool := e.answer.bind fun a => e.await.flag? a.1

end Errand

variable {query search : Finset Int64 → Page → Prop} {s t : Traffic} {a : Event} {e : Errand}
  {id : Int64} {held : Finset Int64} {xs ys : List Errand} {q : Quest} {v : Bool} {c : Catalog}

theorem mem_flip {x : Int64} : x ∈ flip id held ↔ if x = id then id ∉ held else x ∈ held := by
  unfold flip
  by_cases hx : x = id
  · subst hx
    by_cases hm : x ∈ held <;> simp [hm]
  · by_cases hm : id ∈ held <;> simp [hm, hx]

/-- No new flag of a companion is on its way. -/
def Quiet (id : Int64) (s : Traffic) : Prop :=
  ∀ e ∈ s.errands, e.await = .favorite id → e.flag? = none

/-- How an errand with a toggle stands to the favorites held now. -/
def Errand.Turns (id : Int64) (held : Finset Int64) (e : Errand) : Prop :=
  match e.flag? with
  | none => id ∈ held ↔ id ∈ e.before
  | some v => v = decide (id ∈ held) ∧ (id ∈ held ↔ id ∉ e.before)

/-- An errand for the newest ticket. -/
def Errand.Newest (s : Traffic) (e : Errand) : Prop := e.HasTicket ∧ e.ticket = s.tickets

structure InStep (query : Finset Int64 → Page → Prop) (s : Traffic) : Prop where
  nodup : (s.catalog.shown.companions.map (·.id)).Nodup
  shown : ∀ id b, s.catalog.shown.roster.flag? id = some b → s.catalog.pendingFor? id = none →
    b = decide (id ∈ s.held)
  former : ∀ e ∈ s.errands, ∀ t ∈ s.catalog.pending, e.await = .favorite t.id →
    t.former = decide (t.id ∈ e.before)
  turns : ∀ e ∈ s.errands, ∀ id, e.await = .favorite id → e.Turns id s.held
  page : ∀ e ∈ s.errands, ∀ p taken, e.page? = some (p, taken) →
    p.Shows taken ∧ ∀ n d, e.await = .page n d → query taken p
  kept : ∀ k ∈ s.catalog.cache.pages, query s.held k.page
  /-- What was confirmed since the newest ticket is so. -/
  logged : ∀ id v, Quiet id s → Roster.latest? id s.catalog.confirmed = some v →
    v = decide (id ∈ s.held)
  /-- What was not confirmed since the newest ticket has not changed since. -/
  taken : ∀ e ∈ s.errands, e.Newest s → ∀ p taken, e.page? = some (p, taken) →
    ∀ id, Quiet id s → Roster.latest? id s.catalog.confirmed = none → (id ∈ taken ↔ id ∈ s.held)
  /-- A confirmation begins an epoch. -/
  epoch : ∀ e ∈ s.errands, e.Newest s → e.epoch = s.epochs → s.catalog.confirmed = []

theorem Quiet.mono (h : Quiet id t) (hm : ∀ e ∈ s.errands, e ∈ t.errands ∨ e.flag? = none) :
    Quiet id s := by
  intro e he hw
  rcases hm e he with he | hf
  · exact h e he hw
  · exact hf

theorem Engaged.quiet (h : Engaged s) (hp : s.catalog.pendingFor? id = none) : Quiet id s := by
  intro e he hw
  exact absurd hp (h.pendingFor?_ne_none he hw)

/-- An errand is over whose flag, if it has one, is in the log. -/
theorem InStep.drop (h : InStep query s) (hs : s.errands = xs ++ e :: ys)
    (hf : ∀ id, e.await = .favorite id → e.flag? = none ∨
      Roster.latest? id s.catalog.confirmed = some (decide (id ∈ s.held))) :
    InStep query { s with errands := xs ++ ys } := by
  have hmem := mem_of_drop hs
  have hquiet : ∀ id, Quiet id { s with errands := xs ++ ys } →
      Quiet id s ∨ Roster.latest? id s.catalog.confirmed = some (decide (id ∈ s.held)) := by
    intro id hq
    by_cases hl : Roster.latest? id s.catalog.confirmed = some (decide (id ∈ s.held))
    · exact Or.inr hl
    · refine Or.inl fun x hx hw => ?_
      rw [hs] at hx
      rcases List.mem_append.mp hx with hx | hx
      · exact hq x (List.mem_append_left _ hx) hw
      · rcases List.mem_cons.mp hx with rfl | hx
        · exact (hf id hw).resolve_right hl
        · exact hq x (List.mem_append_right _ hx) hw
  refine ⟨h.nodup, h.shown, fun x hx => h.former x (hmem x hx), fun x hx => h.turns x (hmem x hx),
    fun x hx => h.page x (hmem x hx), h.kept, ?_, ?_, fun x hx => h.epoch x (hmem x hx)⟩
  · intro id v hq hl
    rcases hquiet id hq with hq | hl'
    · exact h.logged id v hq hl
    · rw [hl] at hl'
      exact Option.some.inj hl'
  · intro x hx hn p taken hp id hq hl
    rcases hquiet id hq with hq | hl'
    · exact h.taken x (hmem x hx) hn p taken hp id hq hl
    · rw [hl] at hl'
      cases hl'

/-- An answer is logged, in an epoch of its own. -/
theorem InStep.log (h : InStep query s) (ht : Ticketed s) (hv : v = decide (id ∈ s.held)) :
    InStep query { s with
      catalog := { s.catalog with
        epoch := s.catalog.epoch + 1
        confirmed := s.catalog.confirmed ++ [(id, v)] }
      epochs := s.epochs + 1 } := by
  have hlatest : ∀ k, Roster.latest? k (s.catalog.confirmed ++ [(id, v)]) =
      if id = k then some v else Roster.latest? k s.catalog.confirmed := by
    intro k
    by_cases hk : id = k <;> simp [Roster.latest?_append, Roster.latest?, hk]
  refine { h with logged := ?_, taken := ?_, epoch := ?_ }
  · intro k w hq hl
    simp only [hlatest] at hl
    split at hl
    · rename_i hk
      rw [← hk, ← Option.some.inj hl, hv]
    · exact h.logged k w hq hl
  · intro x hx hn p taken hp k hq hl
    simp only [hlatest] at hl
    split at hl
    · cases hl
    · exact h.taken x hx hn p taken hp k hq hl
  · intro x hx _ he
    have := (ht.le x hx).2
    simp only at he
    omega

/-- The toggle of an id is over, and its flag is set to the one held. -/
theorem InStep.settle (h : InStep query s) (hv : v = decide (id ∈ s.held)) :
    InStep query { s with
      catalog := s.catalog.settled id (s.catalog.shown.roster.mark id v) } := by
  refine { h with nodup := ?_, shown := ?_, former := ?_ }
  · simp only [Catalog.settled, Snapshot.companions]
    rw [Roster.map_mark _ fun _ _ => rfl]
    exact h.nodup
  · intro k b hb hp
    simp only [Catalog.settled, Roster.flag?_mark] at hb
    split at hb
    · rename_i hk
      obtain ⟨_, _, rfl⟩ := Option.map_eq_some_iff.mp hb
      rw [hk, hv]
    · rename_i hk
      refine h.shown k b hb (Catalog.pendingFor?_eq_none.mpr fun hm => ?_)
      obtain ⟨u, hu, rfl⟩ := List.mem_map.mp hm
      refine Catalog.pendingFor?_eq_none.mp hp (List.mem_map_of_mem ?_)
      exact List.mem_filter.mpr ⟨hu, by simpa using hk⟩
  · exact fun x hx u hu => h.former x hx u (List.mem_filter.mp hu).1

/-- A page is on show whose flags were put right. -/
theorem InStep.display {p : Page} {taken : Finset Int64} {log : List (Int64 × Bool)}
    (he : Engaged s) (hp : p.Shows taken) (counted : Bool) (hc : c.pending = s.catalog.pending)
    (hlog : c.confirmed = log)
    (hl : ∀ id v, s.catalog.pendingFor? id = none → Roster.latest? id log = some v →
      v = decide (id ∈ s.held))
    (ht : ∀ id, s.catalog.pendingFor? id = none → Roster.latest? id log = none →
      (id ∈ taken ↔ id ∈ s.held)) :
    ((c.display p counted).shown.companions.map (·.id)).Nodup ∧
      ∀ id b, (c.display p counted).shown.roster.flag? id = some b →
        s.catalog.pendingFor? id = none → b = decide (id ∈ s.held) := by
  constructor
  · simp only [Catalog.display, Snapshot.companions, Catalog.reconcile_eq_marks]
    rw [Roster.map_marks _ fun _ _ => rfl]
    exact hp.nodup
  · intro id b hb hn
    simp only [Catalog.display, hc, hlog, Catalog.flag?_reconcile he.nodup, hn] at hb
    obtain ⟨b', hb', rfl⟩ := Option.map_eq_some_iff.mp hb
    cases hv : Roster.latest? id log with
    | some v => simpa [hv] using hl id v hn hv
    | none =>
      obtain ⟨x, hx, rfl, rfl⟩ := Roster.mem_of_flag? hb'
      simp [hp.flag x hx, ht x.id hn hv]

/-- An errand is sent. -/
theorem InStep.send (h : InStep query s) (ha : e.answer = none)
    (hf : ∀ id, e.await = .favorite id → (id ∈ s.held ↔ id ∈ e.before) ∧
      ∀ t ∈ s.catalog.pending, t.id = id → t.former = decide (id ∈ e.before))
    (he : e.Newest s → e.epoch = s.epochs → s.catalog.confirmed = []) :
    InStep query { s with errands := s.errands ++ [e] } := by
  have hpage : e.page? = none := by simp [Errand.page?, ha]
  have hflag : e.flag? = none := by simp [Errand.flag?, ha]
  have hquiet : ∀ id, Quiet id { s with errands := s.errands ++ [e] } → Quiet id s :=
    fun id hq => hq.mono fun x hx => Or.inl (List.mem_append_left _ hx)
  refine ⟨h.nodup, h.shown, ?_, ?_, ?_, h.kept, fun id v hq => h.logged id v (hquiet id hq), ?_, ?_⟩
  · intro x hx u hu hw
    rcases List.mem_append.mp hx with hx | hx
    · exact h.former x hx u hu hw
    · rw [List.mem_singleton.mp hx] at hw ⊢
      exact (hf _ hw).2 u hu rfl
  · intro x hx id hw
    rcases List.mem_append.mp hx with hx | hx
    · exact h.turns x hx id hw
    · rw [List.mem_singleton.mp hx] at hw ⊢
      simp only [Errand.Turns, hflag]
      exact (hf id hw).1
  · intro x hx p taken hp
    rcases List.mem_append.mp hx with hx | hx
    · exact h.page x hx p taken hp
    · simp [List.mem_singleton.mp hx, hpage] at hp
  · intro x hx hn p taken hp id hq
    rcases List.mem_append.mp hx with hx | hx
    · exact h.taken x hx hn p taken hp id (hquiet id hq)
    · simp [List.mem_singleton.mp hx, hpage] at hp
  · intro x hx hn hep
    rcases List.mem_append.mp hx with hx | hx
    · exact h.epoch x hx hn hep
    · rw [List.mem_singleton.mp hx] at hn hep
      exact he hn hep

theorem InStep.seek (hq : ∀ held p, query held p → p.Shows held) (h : InStep query s)
    (ht : Ticketed s) (he : Engaged s) (ho : s.catalog.Offers q) : InStep query (s.seek q) := by
  have hkept {cache : PageCache}
      (hc : cache = s.catalog.cache ∨ cache = (s.catalog.cache.get s.now q.view).2) :
      ∀ k ∈ cache.pages, query s.held k.page :=
    fun k hk => h.kept k (PageCache.mem_of_eq_or_get hc hk)
  have hold : ∀ e ∈ s.errands, e.ticket ≠ s.tickets + 1 := fun e hm => ht.ticket_ne hm
  have hs := Traffic.seek_sought ho
  generalize s.seek q = t at hs
  cases hs with
  | @hit page hn hg =>
    obtain ⟨k, hk, _, rfl, _⟩ := PageCache.kept_of_get hg
    have hd := InStep.display
      (c := { s.catalog.issueFor q.view with cache := (s.catalog.cache.get s.now q.view).2 })
      he (hq _ _ (h.kept k hk)) true rfl rfl nofun fun _ _ _ => Iff.rfl
    exact ⟨hd.1, hd.2, h.former, h.turns, h.page, hkept (Or.inr rfl), nofun,
      fun e hm hx => (hold e hm hx.2).elim, fun e hm hx => (hold e hm hx.2).elim⟩
  | @ask cache hc =>
    have hw : ∀ id, s.catalog.awaitFor q ≠ .favorite id := by
      intro id
      unfold Catalog.awaitFor
      split <;> nofun
    -- With the new ticket, the log of answers begins anew.
    have hissued : InStep query
        { s with
          catalog := ({ s.catalog.issueFor q.view with cache }.awaitAnswer q.isSearch).publish
          tickets := s.tickets + 1
          quest := q
          questTime := s.now } :=
      { h with
        kept := hkept hc
        logged := fun _ _ _ hl => by cases hl
        taken := fun e hm hx => (hold e hm hx.2).elim
        epoch := fun _ _ _ _ => rfl }
    refine hissued.send rfl ?_ fun _ _ => rfl
    exact fun id hf => (hw id hf).elim

/-- The backend answers an errand, and the favorites stay. -/
theorem InStep.answer_still {reply : e.await.Reply} (h : InStep query s)
    (hs : s.errands = xs ++ e :: ys) (ha : e.answer = none) (hf : e.await.flag? reply = none)
    (hp : ∀ p, e.await.page? reply = some p →
      p.Shows s.held ∧ ∀ n d, e.await = .page n d → query s.held p) :
    InStep query { s with
      errands := xs ++ { e with answer := some (reply, s.held) } :: ys } := by
  have hmem : ∀ x ∈ xs ++ { e with answer := some (reply, s.held) } :: ys,
      x ∈ s.errands ∨ x = { e with answer := some (reply, s.held) } := mem_of_replace hs
  have he : e ∈ s.errands := by simp [hs]
  have hquiet : ∀ id, Quiet id { s with
      errands := xs ++ { e with answer := some (reply, s.held) } :: ys } → Quiet id s := by
    intro id hq
    refine hq.mono fun x hx => ?_
    rw [hs] at hx
    rcases mem_of_replace rfl x hx with hx | rfl
    · exact Or.inl hx
    · exact Or.inr (by simp [Errand.flag?, ha])
  refine ⟨h.nodup, h.shown, ?_, ?_, ?_, h.kept, fun id v hq => h.logged id v (hquiet id hq), ?_, ?_⟩
  · intro x hx u hu hw
    rcases hmem x hx with hx | rfl
    · exact h.former x hx u hu hw
    · exact h.former e he u hu hw
  · intro x hx id hw
    rcases hmem x hx with hx | rfl
    · exact h.turns x hx id hw
    · have := h.turns e he id hw
      simpa [Errand.Turns, Errand.flag?, ha, hf] using this
  · intro x hx p taken hpt
    rcases hmem x hx with hx | rfl
    · exact h.page x hx p taken hpt
    · simp only [Errand.page?, Option.bind_some, Option.map_eq_some_iff, Prod.mk.injEq] at hpt
      obtain ⟨p', hp', rfl, rfl⟩ := hpt
      exact hp p' hp'
  · intro x hx hn p taken hpt id hq
    rcases hmem x hx with hx | rfl
    · exact h.taken x hx hn p taken hpt id (hquiet id hq)
    · simp only [Errand.page?, Option.bind_some, Option.map_eq_some_iff, Prod.mk.injEq] at hpt
      obtain ⟨p', hp', rfl, rfl⟩ := hpt
      exact fun _ => Iff.rfl
  · intro x hx hn
    rcases hmem x hx with hx | rfl
    · exact h.epoch x hx hn
    · exact h.epoch e he hn

theorem Engaged.other_id {r : Request} {answer} {ticket epoch : Nat} {before : Finset Int64}
    (h : Engaged s)
    (hs : s.errands = xs ++ ⟨r, .favorite id, answer, ticket, epoch, before⟩ :: ys) :
    s.catalog.pendingFor? id ≠ none ∧ ∀ x ∈ xs ++ ys, x.await ≠ .favorite id := by
  have hids := h.ids
  have hn := h.nodup
  have hmem : (⟨r, .favorite id, answer, ticket, epoch, before⟩ : Errand) ∈ s.errands := by
    simp [hs]
  simp only [hs, List.filterMap_append, List.filterMap_cons, Await.favorite?_favorite] at hids
  constructor
  · exact h.pendingFor?_ne_none hmem rfl
  · intro x hx hw
    rw [hids] at hn
    refine (List.nodup_cons.mp (List.nodup_middle.mp hn)).1 ?_
    rw [← List.filterMap_append, List.mem_filterMap]
    exact ⟨x, hx, by rw [hw]; rfl⟩

/-- The backend turns a flag over, and the new one is on its way. -/
theorem InStep.answer_turn {r : Request} {ticket epoch : Nat} {before : Finset Int64}
    {f : Option Favorite} (h : InStep query s) (he : Engaged s)
    (hs : s.errands = xs ++ ⟨r, .favorite id, none, ticket, epoch, before⟩ :: ys)
    (hv : f.isSome = decide (id ∉ s.held)) :
    InStep query { s with
      errands := xs ++ ⟨r, .favorite id, some (.ok f, s.held), ticket, epoch, before⟩ :: ys
      held := flip id s.held } := by
  obtain ⟨hpend, hother⟩ := he.other_id hs
  have hmem : ∀ x ∈ xs ++ ⟨r, .favorite id, some (.ok f, s.held), ticket, epoch, before⟩ :: ys,
      (x ∈ s.errands ∧ x ∈ xs ++ ys) ∨
        x = ⟨r, .favorite id, some (.ok f, s.held), ticket, epoch, before⟩ := by
    intro x hx
    rw [hs]
    simp only [List.mem_append, List.mem_cons] at hx ⊢
    tauto
  have hold : (⟨r, .favorite id, none, ticket, epoch, before⟩ : Errand) ∈ s.errands := by simp [hs]
  have hflip : ∀ k, k ≠ id → (k ∈ flip id s.held ↔ k ∈ s.held) := by
    intro k hk
    rw [mem_flip, if_neg hk]
  -- The turned flag itself is no longer quiet, so only other ids matter below.
  have hquiet : ∀ k, Quiet k { s with
      errands := xs ++ ⟨r, .favorite id, some (.ok f, s.held), ticket, epoch, before⟩ :: ys
      held := flip id s.held } → k ≠ id ∧ Quiet k s := by
    intro k hq
    have hk : k ≠ id := by
      rintro rfl
      have := hq ⟨r, .favorite k, some (.ok f, s.held), ticket, epoch, before⟩ (by simp) rfl
      simp [Errand.flag?, Await.flag?] at this
    refine ⟨hk, hq.mono fun x hx => ?_⟩
    rw [hs] at hx
    rcases mem_of_replace rfl x hx with hx | rfl
    · exact Or.inl hx
    · exact Or.inr rfl
  refine ⟨h.nodup, ?_, ?_, ?_, ?_, ?_, ?_, ?_, ?_⟩
  · intro k b hb hp
    have hk : k ≠ id := by
      rintro rfl
      exact hpend hp
    rw [h.shown k b hb hp]
    simp only [hflip k hk]
  · intro x hx u hu hw
    rcases hmem x hx with ⟨hx, _⟩ | rfl
    · exact h.former x hx u hu hw
    · exact h.former _ hold u hu hw
  · intro x hx k hw
    rcases hmem x hx with ⟨hx, hxy⟩ | rfl
    · have hk : k ≠ id := by
        rintro rfl
        exact hother x hxy hw
      have := h.turns x hx k hw
      simpa only [Errand.Turns, hflip k hk] using this
    · cases hw
      have := h.turns _ hold id rfl
      simp only [Errand.Turns, Errand.flag?, Await.flag?, Option.bind_none,
        Option.bind_some] at this ⊢
      have hm : id ∈ flip id s.held ↔ id ∉ s.held := by rw [mem_flip, if_pos rfl]
      simp only [hv, hm, this, and_self]
  · intro x hx p taken hp
    rcases hmem x hx with ⟨hx, _⟩ | rfl
    · exact h.page x hx p taken hp
    · cases hp
  · intro k hk
    rw [he.pages_eq_nil hold rfl] at hk
    cases hk
  · intro k v hq hl
    obtain ⟨hk, hq⟩ := hquiet k hq
    rw [h.logged k v hq hl]
    simp only [hflip k hk]
  · intro x hx hn p taken hp k hq hl
    obtain ⟨hk, hq⟩ := hquiet k hq
    rcases hmem x hx with ⟨hx, _⟩ | rfl
    · rw [h.taken x hx hn p taken hp k hq hl]
      exact (hflip k hk).symm
    · cases hp
  · intro x hx hn
    rcases hmem x hx with ⟨hx, _⟩ | rfl
    · exact h.epoch x hx hn
    · cases hn.1

theorem inStep_initial (h : s.Initial) : InStep query s := by
  obtain ⟨_, _, _, _, _, _, rfl⟩ := h
  refine ⟨.nil, ?_, ?_, ?_, ?_, ?_, ?_, ?_, ?_⟩ <;>
    simp [Catalog.withLimits, PageCache.ofCapacity, Roster.flag?, Roster.find?, Roster.latest?]

/-- A toggle is shown and sent. -/
theorem InStep.toggle {b : Bool} (h : InStep query s) (ht : Ticketed s) (he : Engaged s)
    (hp : s.catalog.pendingFor? id = none) (hb : s.catalog.shown.roster.flag? id = some b) :
    InStep query { s with
      catalog := s.catalog.toggled id b
      epochs := s.epochs + 1
      errands := s.errands ++
        [⟨.toggle id, .favorite id, none, s.tickets, s.epochs + 1, s.held⟩] } := by
  have hnew := Catalog.pendingFor?_eq_none.mp hp
  have hnone : ∀ e ∈ s.errands, e.await ≠ .favorite id :=
    fun e hm hw => he.pendingFor?_ne_none hm hw hp
  have hshown : InStep query
      { s with catalog := s.catalog.toggled id b, epochs := s.epochs + 1 } := by
    refine { h with nodup := ?_, shown := ?_, former := ?_, kept := ?_, epoch := ?_ }
    · simp only [Catalog.toggled, Catalog.outdate, Catalog.publish, Snapshot.companions]
      rw [Roster.map_mark _ fun _ _ => rfl]
      exact h.nodup
    · intro k c hc hk
      simp only [Catalog.pendingFor?_eq_none, Catalog.toggled, Catalog.outdate, Catalog.publish,
        List.map_append, List.mem_append, not_or] at hk
      have hne : k ≠ id := by simpa using hk.2
      simp only [Catalog.toggled, Catalog.outdate, Catalog.publish, Roster.flag?_mark,
        if_neg hne] at hc
      exact h.shown k c hc (Catalog.pendingFor?_eq_none.mpr hk.1)
    · intro x hx u hu hw
      rcases List.mem_append.mp hu with hu | hu
      · exact h.former x hx u hu hw
      · rw [List.mem_singleton.mp hu] at hw
        exact (hnone x hx hw).elim
    · exact fun k hk => by cases hk
    · intro x hx _ hep
      have := (ht.le x hx).2
      simp only at hep
      omega
  refine hshown.send rfl (fun k hk => ?_) fun hn => by cases hn.1
  cases hk
  refine ⟨Iff.rfl, fun u hu hid => ?_⟩
  rcases List.mem_append.mp hu with hu | hu
  · exact (hnew (hid ▸ List.mem_map_of_mem hu)).elim
  · rw [List.mem_singleton.mp hu]
    exact h.shown id b hb hp

/-- The backend answers. -/
theorem InStep.answer {reply : e.await.Reply} (hq : ∀ held p, query held p → p.Shows held)
    (hsearch : ∀ held p, search held p → p.Shows held) (h : InStep query s) (he : Engaged s)
    (hs : s.errands = xs ++ e :: ys) (ha : e.answer = none)
    (hk : SingleWriter query search e.await s.held reply held) :
    InStep query { s with
      errands := xs ++ { e with answer := some (reply, s.held) } :: ys
      held } := by
  obtain ⟨r, w, answer, ticket, epoch, before⟩ := e
  simp only at reply ha hk
  subst ha
  cases w with
  | page n d =>
    cases reply with
    | ok p =>
      obtain ⟨hp, rfl⟩ := hk
      exact h.answer_still hs rfl rfl fun p' hp' => by
        cases hp'
        exact ⟨hq _ _ hp, fun _ _ _ => hp⟩
    | error b =>
      cases hk
      exact h.answer_still hs rfl rfl fun _ hp => by cases hp
  | found n =>
    cases reply with
    | ok p =>
      obtain ⟨hp, rfl⟩ := hk
      exact h.answer_still hs rfl rfl fun p' hp' => by
        cases hp'
        exact ⟨hsearch _ _ hp, fun _ _ hw => by cases hw⟩
    | error b =>
      cases hk
      exact h.answer_still hs rfl rfl fun _ hp => by cases hp
  | favorite id =>
    cases reply with
    | ok f =>
      obtain ⟨hv, rfl⟩ := hk
      exact h.answer_turn he hs hv
    | error b =>
      cases hk
      exact h.answer_still hs rfl rfl fun _ hp => by cases hp
  | order =>
    cases hk
    exact h.answer_still hs rfl rfl fun _ hp => by cases hp
  | receipt =>
    cases hk
    exact h.answer_still hs rfl rfl fun _ hp => by cases hp

/-- If the page for the newest ticket may be kept, nothing has changed since it was asked for. -/
theorem InStep.taken_eq {p : Page} {taken : Finset Int64} (h : InStep query s) (ht : Ticketed s)
    (he : Engaged s) (hm : e ∈ s.errands) (hp : s.Prompt e) (hn : e.Newest s)
    (hpt : e.page? = some (p, taken)) (hc : s.catalog.cacheable = true) : taken = s.held := by
  have hlog := h.epoch e hm hn (ht.epoch_eq hm hp hn.1 hn.2 hc)
  have hnil : s.catalog.pending = [] := by
    simp only [Catalog.cacheable, Bool.and_eq_true, List.isEmpty_iff] at hc
    exact hc.1
  ext k
  have hk : s.catalog.pendingFor? k = none := by simp [Catalog.pendingFor?, hnil]
  exact h.taken e hm hn p taken hpt k (he.quiet hk) (by simp [hlog, Roster.latest?])

/-- The reply to a load or to a search arrives. -/
theorem InStep.land {reply : e.await.Reply} {taken : Finset Int64} {n : UInt64}
    {receipts : List Receipt} (h : InStep query s) (ht : Ticketed s) (he : Engaged s)
    (hs : s.errands = xs ++ e :: ys) (ha : e.answer = some (reply, taken)) (hp : s.Prompt e)
    (hw : e.await.ticket? = some n) (hl : Catalog.Landed s.now n e.await reply s.catalog c) :
    InStep query { s with catalog := c, errands := xs ++ ys, receipts } := by
  have hfav : ∀ k, e.await ≠ .favorite k := by
    intro k hk
    rw [hk] at hw
    cases hw
  have hd := h.drop hs fun k hk => (hfav k hk).elim
  cases hl with
  | stale => exact { hd with }
  | failed => exact { hd with }
  | @shown p cache counted hn hpage hcache _ =>
    subst hn
    have hmem : e ∈ s.errands := by simp [hs]
    have hnew : e.Newest s := ⟨by simp [Errand.HasTicket, hw], ht.ticket_eq hmem hp hw⟩
    have hpt : e.page? = some (p, taken) := by simp [Errand.page?, ha, hpage]
    obtain ⟨hshows, hquery⟩ := h.page e hmem p taken hpt
    have hdisp := InStep.display (c := { s.catalog with cache }) he hshows counted rfl rfl
      (fun k v hk => h.logged k v (he.quiet hk))
      (fun k hk => h.taken e hmem hnew p taken hpt k (he.quiet hk))
    refine { hd with nodup := hdisp.1, shown := hdisp.2, kept := ?_ }
    rcases hcache with rfl | ⟨hc, d, hd', rfl⟩
    · exact h.kept
    · intro k hk
      rcases PageCache.mem_set hk with rfl | hk
      · exact h.taken_eq ht he hmem hp hnew hpt hc ▸ hquery _ _ hd'
      · exact h.kept k hk

theorem inStep_step (hq : ∀ held p, query held p → p.Shows held)
    (hsearch : ∀ held p, search held p → p.Shows held) (ht : Ticketed s) (he : Engaged s)
    (hs : InStep query s) (h : Step (SingleWriter query search) s a t) : InStep query t := by
  cases h.move with
  | seek f hf ho =>
    have hl : InStep query (s.leaving f) := { hs with }
    exact hl.seek hq { ht with } { he with } ho
  | refuse id => exact hs
  | toggle hp hb => exact hs.toggle ht he hp hb
  | send op r hw hf =>
    refine hs.send rfl (fun k hk => ?_) fun hn => ?_
    · rw [Await.favorite?_eq_some.mpr hk] at hf
      cases hf
    · simp [Errand.Newest, Errand.HasTicket, hw] at hn
  | answer hx ha hk => exact hs.answer hq hsearch he hx ha hk
  | land hx ha hp hw hl => exact hs.land ht he hx ha hp hw hl
  | @confirm xs ys r id f taken ticket epoch before toggle hx hp =>
    obtain ⟨hm, hid⟩ := Catalog.mem_of_pendingFor? hp
    rw [Toggle.confirm_applied (he.applied _ hm), hid]
    have hv : f.isSome = decide (id ∈ s.held) := by
      have hmem : (⟨r, .favorite id, some (.ok f, taken), ticket, epoch, before⟩ : Errand) ∈
          s.errands := by simp [hx]
      exact (hs.turns _ hmem id rfl).1
    have hlog := hs.log ht hv
    have hd := (hlog.drop hx fun k hk => by
      cases hk
      exact Or.inr (by simp [Roster.latest?_append, Roster.latest?, hv])).settle hv
    exact { hd with }
  | @rollBack xs ys r id b taken ticket epoch before toggle hx hp =>
    obtain ⟨hm, hid⟩ := Catalog.mem_of_pendingFor? hp
    rw [Toggle.rollBack_applied (he.applied _ hm), hid]
    have hv : toggle.former = decide (id ∈ s.held) := by
      have hmem : (⟨r, .favorite id, some (.error b, taken), ticket, epoch, before⟩ : Errand) ∈
          s.errands := by simp [hx]
      have hb : id ∈ s.held ↔ id ∈ before := hs.turns _ hmem id rfl
      rw [hs.former _ hmem toggle hm (by rw [hid]), hid]
      simp only [hb]
    have hd := (hs.drop hx fun k hk => Or.inl rfl).settle hv
    exact { hd with }
  | @reorder xs ys e hx hw =>
    have hd := hs.drop hx fun k hk => by rw [hw] at hk; cases hk
    have htd := ht.drop hx
    have hed := he.drop hx (by rw [hw]; rfl)
    exact InStep.seek hq { hd with kept := fun _ hk => by cases hk } { htd with }
      { hed with cache := fun _ => rfl } (Catalog.offers_of_load rfl)
  | @drop xs ys e hx hw hf =>
    refine hs.drop hx fun k hk => absurd (hf k (Await.favorite?_eq_some.mpr hk)) ?_
    obtain ⟨r, w, answer, ticket, epoch, before⟩ := e
    cases hk
    exact (he.other_id hx).1
  | wait span =>
    exact { hs with }
  | outdate =>
    refine { hs with kept := (fun _ hk => by cases hk), epoch := ?_ }
    intro x hx _ hep
    have := (ht.le x hx).2
    simp only at hep
    omega
  | evict hp => exact { hs with kept := fun k hk => hs.kept k (hp.subset hk) }

/-- All that is known of a run against a single writer. -/
theorem inStep_reachable (hq : ∀ held p, query held p → p.Shows held)
    (hsearch : ∀ held p, search held p → p.Shows held)
    (h : Reachable (SingleWriter query search) s) : Ticketed s ∧ Engaged s ∧ InStep query s := by
  refine h.invariant (P := fun s => Ticketed s ∧ Engaged s ∧ InStep query s)
    (fun s hs => ⟨ticketed_initial hs, engaged_initial hs, inStep_initial hs⟩) ?_
  rintro s a t ⟨ht, he, hs⟩ h
  exact ⟨ticketed_step ht h, engaged_step he h, inStep_step hq hsearch ht he hs h⟩

/-- Each companion on show has the flag that the backend holds, or, while its toggle has no answer,
the opposite of the flag held when the toggle was sent. No reply to a load or a search may be under
way while 2⁶⁴ tickets or epochs pass; this bound enters only through `Step.land`, as
`Traffic.Prompt`. -/
theorem shown_flags_held (h : Reachable (SingleWriter Page.Shows Page.Shows) s) :
    ∀ c ∈ s.catalog.shown.companions,
      (s.catalog.pendingFor? c.id = none → c.isFavorite = decide (c.id ∈ s.held)) ∧
      (s.catalog.pendingFor? c.id ≠ none →
        (∃ e ∈ s.errands, e.await = .favorite c.id) ∧
        ∀ e ∈ s.errands, e.await = .favorite c.id → c.isFavorite = !decide (c.id ∈ e.before)) := by
  obtain ⟨_, he, hs⟩ := inStep_reachable (fun _ _ hp => hp) (fun _ _ hp => hp) h
  intro c hc
  have hf : s.catalog.shown.roster.flag? c.id = some c.isFavorite := Roster.flag?_of_mem hs.nodup hc
  refine ⟨fun hp => hs.shown c.id _ hf hp, fun hp => ?_⟩
  obtain ⟨t, ht⟩ := Option.ne_none_iff_exists'.mp hp
  obtain ⟨hm, hid⟩ := Catalog.mem_of_pendingFor? ht
  constructor
  · have hid' : c.id ∈ s.errands.filterMap (·.await.favorite?) := by
      rw [← he.ids, ← hid]
      exact List.mem_map_of_mem hm
    obtain ⟨e, hm, hw⟩ := List.mem_filterMap.mp hid'
    exact ⟨e, hm, Await.favorite?_eq_some.mp hw⟩
  · intro e hem hw
    rw [← hid] at hw hf ⊢
    rw [he.shown t hm _ hf, Toggle.optimistic, hs.former e hem t hm hw]

/-- Ann, and Bob, who is a favorite. -/
def Page.annAndBob : Page :=
  { companions := [{ id := 1, name := "Ann" }, { id := 2, name := "Bob", isFavorite := true }]
    total := 2
    favorites := 1 }

theorem Page.shows_annAndBob : annAndBob.Shows {2} := ⟨by decide, by decide⟩

/-- A page read before Ann was turned over and shown after that, and then Bob is turned over. -/
theorem shown_flags_held_late_page :
    ∃ s, Reachable (SingleWriter Page.Shows Page.Shows) s ∧
      s.catalog.shown.companions.map (fun c => (c.id, c.isFavorite)) = [(1, true), (2, false)] ∧
      s.catalog.pending.map (·.id) = [2] ∧
      ∀ c ∈ s.catalog.shown.companions,
        (s.catalog.pendingFor? c.id = none → c.isFavorite = decide (c.id ∈ s.held)) ∧
        (s.catalog.pendingFor? c.id ≠ none →
          (∃ e ∈ s.errands, e.await = .favorite c.id) ∧
          ∀ e ∈ s.errands, e.await = .favorite c.id →
            c.isFavorite = !decide (c.id ∈ e.before)) := by
  have hpage := Page.shows_annAndBob
  have h := (Reachable.fresh (SingleWriter Page.Shows Page.Shows) {2}).step (.start _ (.load {}))
  have h := h.step
    (@Step.answer _ _ [] [] _ (.ok Page.annAndBob) {2} rfl rfl (by exact ⟨hpage, rfl⟩))
  have h := h.step (@Step.land _ _ [] [] _ _ _ rfl rfl fun _ => ⟨by decide, by decide⟩)
  have h := h.step (.start _ (.toggle 1))
  have h := h.step (.start _ .reload)
  have h := h.step
    (@Step.answer _ _ [_] [] _ (.ok Page.annAndBob) {2} rfl rfl (by exact ⟨hpage, rfl⟩))
  have h := h.step
    (@Step.answer _ _ [] [_] _ (.ok (some { companionId := 1 })) _ rfl rfl (by exact ⟨rfl, rfl⟩))
  have h := h.step (@Step.land _ _ [] [_] _ _ _ rfl rfl nofun)
  have h := h.step (@Step.land _ _ [] [] _ _ _ rfl rfl fun _ => ⟨by decide, by decide⟩)
  have h := h.step (.start _ (.toggle 2))
  exact ⟨_, h, by decide +kernel, by decide +kernel, shown_flags_held h⟩

end Companions
