import Companions.Proofs.SingleWriter

/-! The favorite counter against the number of favorites that the backend holds. A toggle moves the
counter only with a companion on show, so a change off the list since its page was read is
missed. -/
namespace Companions

variable {s t : Traffic} {a : Event} {as : List Event} {e : Errand} {q : Quest} {p : Page}
  {r : Roster} {held source : Finset Int64} {cs : List Companion} {ms : List (Int64 × Bool)}
  {xs ys : List Errand}

namespace Roster

/-- Who is on show. -/
def ids (r : Roster) : Finset Int64 := (r.companions.map (·.id)).toFinset

/-- The counter stands for the favorites on show and for those of a set that are not on show. -/
structure Balanced (source : Finset Int64) (r : Roster) : Prop where
  roomy : Roomy r
  total : r.favorites.toNat = r.lit + (source \ r.ids).card

theorem ids_marks : (r.marks ms).ids = r.ids := by
  unfold ids
  rw [map_marks _ fun _ _ => rfl]

theorem Balanced.marks (h : Balanced source r) (ms : List (Int64 × Bool)) :
    Balanced source (r.marks ms) := by
  obtain ⟨hr, hm⟩ := marks_balance h.roomy ms
  refine ⟨hr, ?_⟩
  have := h.total
  rw [ids_marks]
  omega

theorem countP_eq_card {f : Companion → Bool} (g : Int64 → Prop) [DecidablePred g]
    (hn : (cs.map (·.id)).Nodup) (hf : ∀ c ∈ cs, f c = decide (g c.id)) :
    cs.countP f = ((cs.map (·.id)).toFinset.filter g).card := by
  have hcongr : cs.countP f = cs.countP fun c => decide (g c.id) :=
    List.countP_congr fun c hc => by rw [hf c hc]
  have hfilter : (cs.map (·.id)).toFinset.filter g =
      ((cs.map (·.id)).filter fun id => decide (g id)).toFinset := by
    simp [List.toFinset_filter]
  rw [hcongr, hfilter, List.toFinset_card_of_nodup (hn.filter _),
    ← List.countP_eq_length_filter, List.countP_map]
  rfl

theorem lit_eq (hn : (r.companions.map (·.id)).Nodup)
    (hf : ∀ c ∈ r.companions, c.isFavorite = decide (c.id ∈ held)) :
    r.lit = (held ∩ r.ids).card := by
  rw [lit, countP_eq_card (· ∈ held) hn hf, Finset.filter_mem_eq_inter, Finset.inter_comm]
  rfl

theorem unlit_eq (hn : (r.companions.map (·.id)).Nodup)
    (hf : ∀ c ∈ r.companions, c.isFavorite = decide (c.id ∈ held)) :
    r.unlit = (r.ids \ held).card := by
  rw [unlit, countP_eq_card (· ∉ held) hn fun c hc => by simp [hf c hc],
    Finset.filter_notMem_eq_sdiff]
  rfl

end Roster

/-- A page with the number of all favorites, on it or not. A counter of 64 bits has room for them
and for the rest of the page. -/
structure Page.Counts (held : Finset Int64) (p : Page) : Prop extends p.Shows held where
  favorites : p.favorites.toNat = held.card
  room : ((p.companions.map (·.id)).toFinset ∪ held).card < 2 ^ 64

theorem Page.Counts.balanced (h : p.Counts held) :
    Roster.Balanced held ⟨p.companions, p.favorites⟩ := by
  have hl := Roster.lit_eq (r := ⟨p.companions, p.favorites⟩) h.nodup h.flag
  have hu := Roster.unlit_eq (r := ⟨p.companions, p.favorites⟩) h.nodup h.flag
  have hin := Finset.card_inter_add_card_sdiff held (Roster.ids ⟨p.companions, p.favorites⟩)
  have hout := Finset.card_sdiff_add_card (Roster.ids ⟨p.companions, p.favorites⟩) held
  have hf := h.favorites
  have hr : (Roster.ids ⟨p.companions, p.favorites⟩ ∪ held).card < 2 ^ 64 := h.room
  exact ⟨⟨by simp only; omega, by simp only; omega⟩, by simp only; omega⟩

/-- A list that was shown with success is that of the page given for the newest ticket, or was in the
cache; then nothing off the list can change. -/
structure Counted (s : Traffic) : Prop where
  loads : ∀ e ∈ s.errands, ∀ n, e.await ≠ .found n
  paged : s.catalog.shown.phase = .success → ∀ r ∈ s.receipts, r.ticket = s.tickets →
    s.catalog.shown.companions.map (·.id) = r.page.companions.map (·.id) ∧
      s.catalog.shown.roster.Balanced r.taken
  cached : s.catalog.shown.phase = .success → (∀ r ∈ s.receipts, r.ticket ≠ s.tickets) →
    s.catalog.shown.roster.Balanced s.held ∧
      ∀ e ∈ s.errands, ∀ id, e.await = .favorite id → id ∈ s.catalog.shown.roster.ids

/-- Steps that at most mark the list on show and send toggles of companions on it. -/
theorem Counted.marks (h : Counted s)
    (hr : ∃ ms, t.catalog.shown.roster = s.catalog.shown.roster.marks ms)
    (hp : t.catalog.shown.phase = .success → s.catalog.shown.phase = .success)
    (hn : t.tickets = s.tickets) (hh : t.held = s.held)
    (hl : ∀ r : Receipt, r.ticket = s.tickets → (r ∈ t.receipts ↔ r ∈ s.receipts))
    (he : ∀ e ∈ t.errands, (∃ e' ∈ s.errands, e.await = e'.await) ∨ e.await.ticket? = none ∧
      ∀ id, e.await = .favorite id → id ∈ s.catalog.shown.roster.ids) : Counted t := by
  obtain ⟨ms, hr⟩ := hr
  refine ⟨?_, fun hs r hm ht => ?_, fun hs hnone => ?_⟩
  · intro e hm n hw
    rcases he e hm with ⟨e', hm', hw'⟩ | ⟨hnone, _⟩
    · exact h.loads e' hm' n (hw' ▸ hw)
    · rw [hw] at hnone
      cases hnone
  · rw [hn] at ht
    obtain ⟨hpage, hb⟩ := h.paged (hp hs) r ((hl r ht).mp hm) ht
    refine ⟨?_, hr ▸ hb.marks ms⟩
    simp only [Snapshot.companions, hr] at hpage ⊢
    rw [← hpage]
    exact Roster.map_marks _ fun _ _ => rfl
  · rw [hn] at hnone
    obtain ⟨hb, hids⟩ := h.cached (hp hs) fun r hm ht => hnone r ((hl r ht).mpr hm) ht
    rw [hr, hh]
    refine ⟨hb.marks ms, fun e hm id hw => ?_⟩
    rw [Roster.ids_marks]
    rcases he e hm with ⟨e', hm', hw'⟩ | ⟨_, hid⟩
    · exact hids e' hm' id (hw' ▸ hw)
    · exact hid id hw

theorem Counted.drop (h : Counted s) (hs : s.errands = xs ++ e :: ys) :
    Counted { s with errands := xs ++ ys } :=
  h.marks ⟨[], rfl⟩ (fun hp => hp) rfl rfl (fun _ _ => Iff.rfl) fun x hx =>
    Or.inl ⟨x, mem_of_drop hs x hx, rfl⟩

/-- The backend answers. What it holds changes by toggles under way at most. -/
theorem Counted.answer {reply : e.await.Reply} (h : Counted s)
    (hs : s.errands = xs ++ e :: ys)
    (hk : held = s.held ∨ ∃ id, e.await = .favorite id ∧ held = flip id s.held) :
    Counted { s with
      errands := xs ++ { e with answer := some (reply, s.held) } :: ys
      held } := by
  have he : e ∈ s.errands := by simp [hs]
  have hmem : ∀ x ∈ xs ++ { e with answer := some (reply, s.held) } :: ys,
      ∃ y ∈ s.errands, x.await = y.await := by
    intro x hx
    rcases mem_of_replace hs x hx with hx | rfl
    · exact ⟨x, hx, rfl⟩
    · exact ⟨e, he, rfl⟩
  refine ⟨?_, h.paged, fun hp hnone => ?_⟩
  · intro x hx n hw
    obtain ⟨y, hy, hw'⟩ := hmem x hx
    exact h.loads y hy n (hw' ▸ hw)
  · obtain ⟨hb, hids⟩ := h.cached hp hnone
    refine ⟨⟨hb.roomy, ?_⟩, fun x hx id hw => ?_⟩
    · have hoff : held \ s.catalog.shown.roster.ids = s.held \ s.catalog.shown.roster.ids := by
        rcases hk with rfl | ⟨id, hw, rfl⟩
        · rfl
        · ext x
          have hid := hids e he id hw
          simp only [Finset.mem_sdiff, mem_flip]
          by_cases hx : x = id
          · simp [hx, hid]
          · simp [hx]
      rw [hoff]
      exact hb.total
    · obtain ⟨y, hy, hw'⟩ := hmem x hx
      exact hids y hy id (hw' ▸ hw)

theorem Counted.seek (h : Counted s) (ha : AnsweredOnce s) (he : Engaged s)
    (hi : InStep Page.Counts s) (ho : s.catalog.Offers q) (hq : q.isSearch = false) :
    Counted (s.seek q) := by
  have hs := Traffic.seek_sought ho
  generalize s.seek q = t at hs
  cases hs with
  | @hit page _ hg =>
    obtain ⟨k, hk, _, rfl, _⟩ := PageCache.kept_of_get hg
    -- A page was kept, so no toggle is under way.
    have hnil : s.catalog.pending = [] := by
      by_contra hne
      rw [he.cache hne] at hk
      cases hk
    refine ⟨h.loads, fun _ r hm ht => ?_, fun _ _ => ⟨?_, fun e hm id hw => ?_⟩⟩
    · have := ha.le r hm
      simp only at ht
      omega
    · have := (hi.kept k hk).balanced.marks (s.catalog.pending.map Toggle.asMark)
      simpa [Catalog.publish, Catalog.display, Catalog.reconcile_eq_marks, Catalog.issueFor,
        Catalog.issue] using this
    · have hid : id ∈ s.errands.filterMap (·.await.favorite?) :=
        List.mem_filterMap.mpr ⟨e, hm, by rw [hw]; rfl⟩
      rw [← he.ids, hnil] at hid
      cases hid
  | ask hc =>
    refine ⟨fun e hm n hw => ?_, (fun hp => by cases hp), fun hp => by cases hp⟩
    rcases List.mem_append.mp hm with hm | hm
    · exact h.loads e hm n hw
    · rw [List.mem_singleton.mp hm] at hw
      simp [Catalog.awaitFor, hq] at hw

/-- A reply to a load arrives. A page that is shown is the only one for the newest ticket. -/
theorem Counted.land {reply : e.await.Reply} {taken : Finset Int64} {n : UInt64} {c : Catalog}
    (h : Counted s) (ht : Ticketed s) (ha : AnsweredOnce s) (hi : InStep Page.Counts s)
    (hs : s.errands = xs ++ e :: ys) (hr : e.answer = some (reply, taken)) (hp : s.Prompt e)
    (hw : e.await.ticket? = some n) (hl : Catalog.Landed s.now n e.await reply s.catalog c) :
    Counted { s with
      catalog := c
      errands := xs ++ ys
      receipts := s.receipts ++ ((e.await.page? reply).map fun page =>
        (⟨e.request, page, s.now, e.ticket, taken⟩ : Receipt)).toList } := by
  have hmem : e ∈ s.errands := by simp [hs]
  have hd := h.drop hs
  cases hl with
  | stale hn =>
    have hold : e.ticket ≠ s.tickets := by
      intro heq
      rw [ht.newest, ← heq] at hn
      exact hn (ht.ticket e hmem n hw)
    refine hd.marks ⟨[], rfl⟩ (fun hp => hp) rfl rfl (fun r hr => ?_) fun x hx => Or.inl ⟨x, hx, rfl⟩
    cases e.await.page? reply with
    | none => simp
    | some page =>
      have hne : r ≠ ⟨e.request, page, s.now, e.ticket, taken⟩ := by
        rintro rfl
        exact hold hr
      simp [hne]
  | failed => exact ⟨hd.loads, (fun hp => by cases hp), fun hp => by cases hp⟩
  | @shown p cache counted hcur hpage _ hcounted =>
    have hnew : e.ticket = s.tickets := ht.ticket_eq hmem hp (hcur ▸ hw)
    have hnone := ha.ticket_ne hmem (by simp [hw]) hnew
    have hcounted : counted = true := by
      by_contra hc
      exact h.loads e hmem _ (hcounted (by simpa using hc))
    subst hcounted
    have hpt : e.page? = some (p, taken) := by simp [Errand.page?, hr, hpage]
    have hquery : p.Counts taken := by
      cases hw' : e.await with
      | page n d => exact (hi.page e hmem p taken hpt).2 n d hw'
      | found n => exact (h.loads e hmem n hw').elim
      | _ => rw [hw'] at hw; cases hw
    rw [hpage]
    refine ⟨hd.loads, fun _ r hm hrt => ?_, fun _ hno => ?_⟩
    · rcases List.mem_append.mp hm with hm | hm
      · exact (hnone r hm hrt).elim
      · obtain rfl : r = ⟨e.request, p, s.now, e.ticket, taken⟩ := by simpa using hm
        constructor
        · simp only [Catalog.publish, Catalog.display, Snapshot.companions,
            Catalog.reconcile_eq_marks]
          exact Roster.map_marks _ fun _ _ => rfl
        · have := hquery.balanced.marks
            (s.catalog.confirmed ++ s.catalog.pending.map Toggle.asMark)
          rw [← Catalog.reconcile_eq_marks] at this
          exact this
    · exact (hno ⟨e.request, p, s.now, e.ticket, taken⟩ (by simp) hnew).elim

theorem counted_initial (h : s.Initial) : Counted s := by
  obtain ⟨_, _, _, _, _, _, rfl⟩ := h
  exact ⟨by simp, nofun, nofun⟩

theorem SingleWriter.held_eq {query search : Finset Int64 → Page → Prop} {w : Await}
    {reply : w.Reply} {held' : Finset Int64} (h : SingleWriter query search w held reply held') :
    held' = held ∨ ∃ id, w = .favorite id ∧ held' = flip id held := by
  cases w with
  | page _ _ => cases reply with
    | ok p => exact Or.inl h.2
    | error b => exact Or.inl h
  | found _ => cases reply with
    | ok p => exact Or.inl h.2
    | error b => exact Or.inl h
  | favorite id => cases reply with
    | ok f => exact Or.inr ⟨id, rfl, h.2⟩
    | error b => exact Or.inl h
  | order => exact Or.inl h
  | receipt => exact Or.inl h

theorem Operation.isSearch_of_quest? {op : Operation} {c : Catalog} (h : op.quest? c = some q)
    (hop : ∀ text, op ≠ .search text) : q.isSearch = false := by
  cases op with
  | search text => exact (hop text rfl).elim
  | setGroup g => cases g <;> cases h <;> rfl
  | load d => cases h; rfl
  | reload => cases h; rfl
  | setFilter f => cases h; rfl
  | setSort o => cases h; rfl
  | toggle id => cases h
  | reorder ps => cases h
  | access r => cases h

theorem counted_step (ht : Ticketed s) (ha : AnsweredOnce s) (he : Engaged s)
    (hi : InStep Page.Counts s) (hs : Counted s)
    (h : Step (SingleWriter Page.Counts Page.Shows) s a t)
    (hn : ∀ text, a ≠ .start (.search text)) : Counted t := by
  cases h.move with
  | @seek op q f hq ho =>
    have hl : Counted (s.leaving f) := { hs with }
    have hop : ∀ text, op ≠ .search text := fun text hop => hn text (by rw [hop])
    exact hl.seek { ha with } { he with } { hi with } ho (Operation.isSearch_of_quest? hq hop)
  | refuse id => exact hs
  | @toggle id b hp hb =>
    refine hs.marks ⟨[(id, !b)], rfl⟩ (fun hp => hp) rfl rfl (fun _ _ => Iff.rfl) fun e hm => ?_
    rcases List.mem_append.mp hm with hm | hm
    · exact Or.inl ⟨e, hm, rfl⟩
    · rw [List.mem_singleton.mp hm]
      refine Or.inr ⟨rfl, fun k hk => ?_⟩
      cases hk
      obtain ⟨x, hx, hid, _⟩ := Roster.mem_of_flag? hb
      exact List.mem_toFinset.mpr (hid ▸ List.mem_map_of_mem hx)
  | send op r hw hf =>
    refine hs.marks ⟨[], rfl⟩ (fun hp => hp) rfl rfl (fun _ _ => Iff.rfl) fun e hm => ?_
    rcases List.mem_append.mp hm with hm | hm
    · exact Or.inl ⟨e, hm, rfl⟩
    · rw [List.mem_singleton.mp hm]
      refine Or.inr ⟨hw, fun k hk => ?_⟩
      rw [Await.favorite?_eq_some.mpr hk] at hf
      cases hf
  | answer hx ha' hk => exact hs.answer hx hk.held_eq
  | land hx ha' hp hw hl => exact hs.land ht ha hi hx ha' hp hw hl
  | @confirm _ _ _ id f _ _ _ _ toggle hx hp =>
    rw [Toggle.confirm_applied (he.applied _ (Catalog.mem_of_pendingFor? hp).1)]
    exact (hs.drop hx).marks ⟨[(toggle.id, f.isSome)], rfl⟩ (fun hp => hp) rfl rfl
      (fun _ _ => Iff.rfl) fun x hx => Or.inl ⟨x, hx, rfl⟩
  | @rollBack _ _ _ id b _ _ _ _ toggle hx hp =>
    rw [Toggle.rollBack_applied (he.applied _ (Catalog.mem_of_pendingFor? hp).1)]
    exact (hs.drop hx).marks ⟨[(toggle.id, toggle.former)], rfl⟩ (fun hp => hp) rfl rfl
      (fun _ _ => Iff.rfl) fun x hx => Or.inl ⟨x, hx, rfl⟩
  | @reorder xs ys e hx hw =>
    have hd := hs.drop hx
    have had := ha.drop hx
    have hed := he.drop hx (by rw [hw]; rfl)
    have hid := hi.drop hx fun k hk => by rw [hw] at hk; cases hk
    exact Counted.seek { hd with } { had with } { hed with cache := fun _ => rfl }
      { hid with kept := fun _ hk => by cases hk } (Catalog.offers_of_load rfl) rfl
  | drop hx hw hf => exact hs.drop hx
  | wait span => exact { hs with }
  | outdate => exact { hs with }
  | evict hp => exact { hs with }

/-- What is known of a run without searches. -/
theorem counted_run {s₀ : Traffic} (h₀ : s₀.Initial)
    (h : Run (SingleWriter Page.Counts Page.Shows) s₀ as s)
    (hn : ∀ text, .start (.search text) ∉ as) : InStep Page.Counts s ∧ Counted s := by
  refine (h.invariant
    (P := fun s =>
      Ticketed s ∧ AnsweredOnce s ∧ Engaged s ∧ InStep Page.Counts s ∧ Counted s)
    (Q := fun a => ∀ text, a ≠ .start (.search text)) ?_ (fun a ha text he => hn text (he ▸ ha))
    ⟨ticketed_initial h₀, answeredOnce_initial h₀, engaged_initial h₀, inStep_initial h₀,
      counted_initial h₀⟩).2.2.2
  rintro s a t ha ⟨ht, hr, he, hi, hs⟩ h
  refine ⟨ticketed_step ht h, answeredOnce_step ht hr h, engaged_step he h, ?_,
    counted_step ht hr he hi hs h ha⟩
  exact inStep_step (fun _ _ h => h.toShows) (fun _ _ h => h) ht he hi h

/-- In a run without searches, once no toggle is under way: if a page came for the newest ticket, it
is on show, and the counter is right but for the favorites off the list, which it still counts as
the backend held them when it gave that page; if none came, the list was in the cache, and the
counter is right. -/
theorem favorites_counted {s₀ : Traffic} (h₀ : s₀.Initial)
    (h : Run (SingleWriter Page.Counts Page.Shows) s₀ as s)
    (hn : ∀ text, .start (.search text) ∉ as) (hp : s.catalog.pending = [])
    (hs : s.catalog.shown.phase = .success) :
    (∀ r ∈ s.receipts, r.ticket = s.tickets →
      s.catalog.shown.companions.map (·.id) = r.page.companions.map (·.id) ∧
      s.catalog.shown.roster.favorites.toNat + (s.held \ s.catalog.shown.roster.ids).card =
        s.held.card + (r.taken \ s.catalog.shown.roster.ids).card ∧
      (s.catalog.shown.roster.favorites.toNat = s.held.card ↔
        (s.held \ s.catalog.shown.roster.ids).card =
          (r.taken \ s.catalog.shown.roster.ids).card)) ∧
    ((∀ r ∈ s.receipts, r.ticket ≠ s.tickets) →
      s.catalog.shown.roster.favorites.toNat = s.held.card) := by
  obtain ⟨hi, hc⟩ := counted_run h₀ h hn
  have hlit : s.catalog.shown.roster.lit = (s.held ∩ s.catalog.shown.roster.ids).card :=
    Roster.lit_eq hi.nodup fun c hm =>
      hi.shown c.id _ (Roster.flag?_of_mem hi.nodup hm) (by simp [Catalog.pendingFor?, hp])
  have hheld := Finset.card_inter_add_card_sdiff s.held s.catalog.shown.roster.ids
  constructor
  · intro r hr ht
    obtain ⟨hpage, hb⟩ := hc.paged hs r hr ht
    have := hb.total
    exact ⟨hpage, by omega, by omega⟩
  · intro hnone
    have := (hc.cached hs hnone).1.total
    omega

/-- A page without Ann, read before she was turned over and shown after that. -/
theorem late_page :
    ∃ as s, Run (SingleWriter Page.Counts Page.Shows) (.fresh ∅) as s ∧
      (∀ text, .start (.search text) ∉ as) ∧ s.catalog.pending = [] ∧
      s.catalog.shown.phase = .success ∧ s.catalog.shown.roster.favorites = 0 ∧ s.held = {1} ∧
      ∃ r ∈ s.receipts, r.ticket = s.tickets := by
  have hfirst : Page.Counts ∅ ⟨[{ id := 1, name := "Ann" }, { id := 2, name := "Bob" }], 2, 0, 0⟩ :=
    ⟨⟨by decide, by decide⟩, rfl, by decide⟩
  have hlate : Page.Counts ∅ ⟨[{ id := 2, name := "Bob" }], 2, 0, 0⟩ :=
    ⟨⟨by decide, by decide⟩, rfl, by decide⟩
  have h := (Run.refl (k := SingleWriter Page.Counts Page.Shows) (.fresh ∅)).snoc
    (.start _ (.load {}))
  have h := h.snoc (@Step.answer _ _ [] [] _ (.ok _) ∅ rfl rfl (by exact ⟨hfirst, rfl⟩))
  have h := h.snoc (@Step.land _ _ [] [] _ _ _ rfl rfl fun _ => ⟨by decide, by decide⟩)
  have h := h.snoc (.start _ (.setSort .recent))
  have h := h.snoc (@Step.answer _ _ [] [] _ (.ok _) ∅ rfl rfl (by exact ⟨hlate, rfl⟩))
  have h := h.snoc (.start _ (.toggle 1))
  have h := h.snoc
    (@Step.answer _ _ [_] [] _ (.ok (some { companionId := 1 })) _ rfl rfl (by exact ⟨rfl, rfl⟩))
  have h := h.snoc (@Step.land _ _ [_] [] _ _ _ rfl rfl nofun)
  have h := h.snoc (@Step.land _ _ [] [] _ _ _ rfl rfl fun _ => ⟨by decide, by decide⟩)
  exact ⟨_, _, h, by simp, by rfl, by rfl, by decide +kernel, by decide +kernel, _,
    List.mem_append_right _ (List.mem_singleton_self _), by decide⟩

theorem favorites_counted_late_page :
    ∃ as s r, Run (SingleWriter Page.Counts Page.Shows) (.fresh ∅) as s ∧
      (∀ text, .start (.search text) ∉ as) ∧ s.catalog.pending = [] ∧
      s.catalog.shown.phase = .success ∧ r ∈ s.receipts ∧ r.ticket = s.tickets ∧
      s.catalog.shown.roster.favorites.toNat + (s.held \ s.catalog.shown.roster.ids).card =
        s.held.card + (r.taken \ s.catalog.shown.roster.ids).card ∧
      s.catalog.shown.roster.favorites.toNat ≠ s.held.card := by
  obtain ⟨as, s, h, hn, hp, hs, hf, hh, r, hr, ht⟩ := late_page
  have hcounted := (favorites_counted (Traffic.initial_fresh ∅) h hn hp hs).1 r hr ht
  refine ⟨as, s, r, h, hn, hp, hs, hr, ht, hcounted.2.1, ?_⟩
  rw [hf, hh]
  decide

/-- The counter need not be the number of favorites held. -/
theorem favorites_not_held :
    ¬ ∀ s₀ as s, s₀.Initial → Run (SingleWriter Page.Counts Page.Shows) s₀ as s →
      (∀ text, .start (.search text) ∉ as) → s.catalog.pending = [] →
      s.catalog.shown.phase = .success →
      s.catalog.shown.roster.favorites.toNat = s.held.card := by
  intro hall
  obtain ⟨as, s, h, hn, hp, hs, hf, hh, _⟩ := late_page
  have := hall _ as s (Traffic.initial_fresh ∅) h hn hp hs
  rw [hf, hh] at this
  exact absurd this (by decide)

end Companions
