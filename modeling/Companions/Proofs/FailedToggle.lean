import Companions.Proofs.SingleWriter

/-! What is left of a toggle in the favorite counter once it has failed, when searches have replaced
the list meanwhile. -/
namespace Companions

variable {k : Conduct} {s t u : Traffic} {a : Event} {e : Errand} {id : Int64} {b : Bool}
  {since : Nat} {ps : List Page} {c : Catalog} {n : UInt64}

/-- The flag that a page carries for an id, which is that of its first companion. -/
def Page.flag? (id : Int64) (p : Page) : Option Bool :=
  (p.companions.find? fun c => c.id == id).map (·.isFavorite)

namespace Event

/-- No toggle starts or is answered, no page of a load arrives, and of the search results only those
asked for after a ticket. -/
def Apart (since : Nat) : Event → Prop
  | .start (.toggle _) => False
  | .land e =>
    match e.await with
    | .page _ _ | .favorite _ => False
    | .found _ => since < e.ticket
    | .order | .receipt => True
  | _ => True

/-- The page that an event puts on show, if it is the arrival of a reply. -/
def shows? (s : Traffic) : Event → Option Page
  | .land e => if e.await.ticket? = some s.catalog.newest then e.page?.map (·.1) else none
  | _ => none

end Event

/-- Searches sent after a ticket, which show these results one after the other. -/
inductive Searches (k : Conduct) (since : Nat) (s : Traffic) : List Page → Traffic → Prop
  | refl : Searches k since s [] s
  | tail {ps : List Page} {t u : Traffic} {a : Event} (h : Searches k since s ps t)
      (hs : LateStep k t a u) (ha : a.Apart since) :
      Searches k since s (ps ++ (a.shows? t).toList) u

namespace Roster

/-- A flip, some more in the same direction, and one flip back: this gives the first value only if
there were no more of them, or the counter could not move. -/
theorem count_back_eq {j : Nat} (h0 : b = true → 0 < n.toNat) (h1 : n.toNat < 2 ^ 64 - 1) :
    count b ((count (!b))^[j] (count (!b) n)) = n ↔
      j = 0 ∨ count (!b) (count (!b) n) = count (!b) n := by
  have h2 := toNat_count_iterate (!b) (j + 1) n
  have h3 := toNat_count_iterate b 1 ((count (!b))^[j] (count (!b) n))
  have h4 := toNat_count_iterate (!b) 1 n
  have h5 := toNat_count_iterate (!b) 2 n
  simp only [Function.iterate_succ_apply, Function.iterate_zero_apply] at h2 h3 h4 h5
  rw [← UInt64.toNat_inj, ← UInt64.toNat_inj, h3, h2, h4, h5]
  generalize 2 ^ 64 - 1 = most at h1 ⊢
  cases b with
  | false =>
    simp only [Bool.not_false, if_true, Bool.false_eq_true, if_false]
    omega
  | true =>
    have := h0 rfl
    simp only [Bool.not_true, if_true, Bool.false_eq_true, if_false]
    omega

/-- Without the flip back, the first value is not reached again. -/
theorem count_on_ne {j : Nat} (h0 : b = true → 0 < n.toNat) (h1 : n.toNat < 2 ^ 64 - 1) :
    (count (!b))^[j] (count (!b) n) ≠ n := by
  have h2 := toNat_count_iterate (!b) (j + 1) n
  simp only [Function.iterate_succ_apply] at h2
  rw [ne_eq, ← UInt64.toNat_inj, h2]
  cases b with
  | false =>
    simp only [Bool.not_false, if_true]
    omega
  | true =>
    simp only [Bool.not_true, Bool.false_eq_true, if_false]
    have := h0 rfl
    omega

end Roster

/-- A search result is marked with what is known since the newest ticket, on top of the counter that
is on show. -/
theorem Catalog.landSearch_roster (c : Catalog) (n : UInt64) (reply : Except BackendError Page) :
    (c.landSearch n reply).1.pending = c.pending ∧
      (c.landSearch n reply).1.confirmed = c.confirmed ∧
      (c.landSearch n reply).1.shown.roster =
        match if n = c.newest then reply.toOption else none with
        | none => c.shown.roster
        | some p =>
          (⟨p.companions, c.shown.roster.favorites⟩ : Roster).marks
            (c.confirmed ++ c.pending.map Toggle.asMark) := by
  by_cases hn : n = c.newest
  · cases reply <;> simp [landSearch, hn, Except.mapError, Except.toOption, publish, display, fail,
      reconcile_eq_marks]
  · simp [landSearch, hn]

/-- What such an event does while a toggle is under way. -/
structure Meanwhile (since : Nat) (t : Traffic) (a : Event) (u : Traffic) : Prop where
  pending : u.catalog.pending = t.catalog.pending
  confirmed : u.tickets = t.tickets ∧ u.catalog.confirmed = t.catalog.confirmed ∨
    t.tickets < u.tickets ∧ u.catalog.confirmed = []
  still : a.shows? t = none → u.catalog.shown.roster = t.catalog.shown.roster
  shown : ∀ p, a.shows? t = some p → since < t.tickets ∧ u.catalog.shown.roster =
    (⟨p.companions, t.catalog.shown.roster.favorites⟩ : Roster).marks
      (t.catalog.confirmed ++ t.catalog.pending.map Toggle.asMark)

theorem Traffic.seek_apart {q : Quest} (hc : t.catalog.cache.pages = []) (ho : t.catalog.Offers q) :
    (t.seek q).catalog.pending = t.catalog.pending ∧ (t.seek q).catalog.confirmed = [] ∧
      (t.seek q).tickets = t.tickets + 1 ∧
      (t.seek q).catalog.shown.roster = t.catalog.shown.roster := by
  have hs := Traffic.seek_sought ho
  generalize t.seek q = u at hs
  cases hs with
  | hit hq hg =>
    obtain ⟨k, hk, _⟩ := PageCache.kept_of_get hg
    rw [hc] at hk
    cases hk
  | ask hc => exact ⟨rfl, rfl, rfl, rfl⟩

/-- A search result arrives, in time or not. -/
theorem apart_landing (ht : Ticketed t) (h : LateStep k t (.land e) u) (hl : LateLanding t e u)
    (ha : (Event.land e).Apart since) : Meanwhile since t (.land e) u := by
  obtain ⟨hm, reply, taken, hans, hc⟩ := h.land_catalog
  have hle := (ht.le e hm).1
  have hu : u.tickets = t.tickets := by cases hl; rfl
  obtain ⟨_, hw, _⟩ := hl
  obtain ⟨r, w, answer, ticket, epoch, before⟩ := e
  simp only at reply hans hc hle hw
  subst hans
  cases w with
  | found n =>
    have hsince : since < ticket := ha
    obtain ⟨hp, hconf, hr⟩ := t.catalog.landSearch_roster n reply
    have hshows : (Event.land ⟨r, .found n, some (reply, taken), ticket, epoch, before⟩).shows? t =
        if n = t.catalog.newest then reply.toOption else none := by
      cases reply <;> simp [Event.shows?, Errand.page?, Await.page?, Await.ticket?, Except.toOption]
    have hc : _ = (t.catalog.landSearch n reply).1 := hc
    refine ⟨hc ▸ hp, Or.inl ⟨hu, hc ▸ hconf⟩, fun hnone => ?_, fun p hsome => ⟨by omega, ?_⟩⟩
    · rw [hc, hr, ← hshows, hnone]
    · rw [hc, hr, ← hshows, hsome]
  | page n d => exact ha.elim
  | _ => cases hw

theorem apart_step (ht : Ticketed t) (he : Engaged t) (hp : t.catalog.pending ≠ [])
    (h : LateStep k t a u) (ha : a.Apart since) : Meanwhile since t a u := by
  have hnil := he.cache hp
  rcases h.step_or_landing with hs | ⟨e, rfl, hl⟩
  · cases hs.move with
    | seek f hq ho =>
      obtain ⟨h1, h2, h3, h4⟩ := Traffic.seek_apart (t := t.leaving f) hnil ho
      have hlt := Nat.lt_succ_self t.tickets
      exact ⟨h1, Or.inr ⟨hlt.trans_eq h3.symm, h2⟩, fun _ => h4, fun _ h => by cases h⟩
    | refuse id => exact ha.elim
    | toggle hp hb => exact ha.elim
    | send op r hw hf => exact ⟨rfl, Or.inl ⟨rfl, rfl⟩, fun _ => rfl, fun _ h => by cases h⟩
    | answer hx hans hk => exact ⟨rfl, Or.inl ⟨rfl, rfl⟩, fun _ => rfl, fun _ h => by cases h⟩
    | land hx hans hprompt hw hl => exact apart_landing ht h (.mk hx hw hl) ha
    | confirm hx hp => exact ha.elim
    | rollBack hx hp => exact ha.elim
    | @reorder xs ys e hx hw =>
      obtain ⟨h1, h2, h3, h4⟩ := Traffic.seek_apart (q := .reordered)
        (t := ({ t with errands := xs ++ ys } : Traffic).reordered) rfl
        (Catalog.offers_of_load rfl)
      have hlt := Nat.lt_succ_self t.tickets
      refine ⟨h1, Or.inr ⟨hlt.trans_eq h3.symm, h2⟩, fun _ => h4, ?_⟩
      simp [Event.shows?, hw, Await.ticket?]
    | drop hx hw hf =>
      exact ⟨rfl, Or.inl ⟨rfl, rfl⟩, fun _ => rfl, by simp [Event.shows?, hw]⟩
    | wait span => exact ⟨rfl, Or.inl ⟨rfl, rfl⟩, fun _ => rfl, fun _ h => by cases h⟩
    | outdate => exact ⟨rfl, Or.inl ⟨rfl, rfl⟩, fun _ => rfl, fun _ h => by cases h⟩
    | evict hx => exact ⟨rfl, Or.inl ⟨rfl, rfl⟩, fun _ => rfl, fun _ h => by cases h⟩
  · exact apart_landing ht h hl ha

theorem Roster.favorites_marks_last (id : Int64) (b : Bool) (n : UInt64) {p : Page}
    {ms : List (Int64 × Bool)} (h : ∀ m ∈ ms, ∀ v, p.flag? m.1 = some v → v = m.2) :
    ((⟨p.companions, n⟩ : Roster).marks (ms ++ [(id, !b)])).favorites =
      if p.flag? id = some b then Roster.count (!b) n else n := by
  have hms : (⟨p.companions, n⟩ : Roster).marks ms = ⟨p.companions, n⟩ := Roster.marks_of_agree h
  have hlast : (⟨p.companions, n⟩ : Roster).marks (ms ++ [(id, !b)]) =
      ((⟨p.companions, n⟩ : Roster).marks ms).mark id !b := by simp [Roster.marks]
  rw [hlast, hms, Roster.favorites_mark, Bool.not_not]
  rfl

/-- The toggle of a companion whose flag was `b` is under way since a state, and searches have shown
these results since. -/
structure Undecided (s : Traffic) (id : Int64) (b : Bool) (ps : List Page) (t : Traffic) :
    Prop where
  ticketed : Ticketed t
  engaged : Engaged t
  pending : t.catalog.pending = s.catalog.pending ++ [⟨id, b, .applied⟩]
  /-- Nothing is confirmed since a ticket that was issued after the toggle was sent. -/
  confirmed : s.tickets < t.tickets → t.catalog.confirmed = []
  tickets : s.tickets ≤ t.tickets
  /-- Each result with the flag from before moves the counter once more. -/
  favorites : t.catalog.shown.roster.favorites =
    (Roster.count !b)^[ps.countP fun p => p.flag? id = some b]
      (Roster.count (!b) s.catalog.shown.roster.favorites)

theorem undecided_toggle (ht : Ticketed s) (he : Engaged s) (hp : s.catalog.pendingFor? id = none)
    (hb : s.catalog.shown.roster.flag? id = some b) :
    Undecided s id b [] (s.start (.toggle id)) := by
  have hc : (s.start (.toggle id)).catalog = s.catalog.toggled id b :=
    congrArg Prod.fst (Catalog.beginToggle_of_flag hp hb)
  have hs : Step (fun _ _ _ _ => True) s (.start (.toggle id)) (s.start (.toggle id)) := .start s _
  refine ⟨ticketed_step ht hs, engaged_step he hs, by rw [hc]; rfl, fun h => ?_, le_rfl, ?_⟩
  · exact absurd h (lt_irrefl _)
  · rw [hc]
    simp [Catalog.toggled, Catalog.outdate, Catalog.publish, Roster.favorites_mark, hb]

theorem undecided_searches (h₀ : Undecided s id b [] t) (h : Searches k s.tickets t ps u)
    (hother : ∀ p ∈ ps, ∀ x ∈ s.catalog.pending, ∀ v, p.flag? x.id = some v → v = x.optimistic) :
    Undecided s id b ps u := by
  induction h with
  | refl => exact h₀
  | @tail ps t u a h hs ha ih =>
    have ih := ih fun p hp => hother p (List.mem_append_left _ hp)
    have hf := apart_step ih.ticketed ih.engaged (by simp [ih.pending]) hs ha
    refine ⟨ticketed_lateStep ih.ticketed hs, engaged_lateStep ih.engaged hs,
      hf.pending.trans ih.pending, fun hlt => ?_, ih.tickets.trans hs.tickets_le, ?_⟩
    · rcases hf.confirmed with ⟨h1, h2⟩ | ⟨_, h2⟩
      · exact h2.trans (ih.confirmed (h1 ▸ hlt))
      · exact h2
    · cases hp : a.shows? t with
      | none => simpa [hf.still hp] using ih.favorites
      | some p =>
        obtain ⟨hlt, hr⟩ := hf.shown p hp
        have hagree : ∀ m ∈ s.catalog.pending.map Toggle.asMark, ∀ v, p.flag? m.1 = some v →
            v = m.2 := by
          intro m hm v hv
          obtain ⟨x, hx, rfl⟩ := List.mem_map.mp hm
          exact hother p (by simp [hp]) x hx v hv
        have hlast := Roster.favorites_marks_last id b t.catalog.shown.roster.favorites hagree
        rw [hr, ih.confirmed hlt, ih.pending]
        simp only [List.nil_append, List.map_append, List.map_cons, List.map_nil]
        refine hlast.trans ?_
        rw [ih.favorites]
        by_cases hb : p.flag? id = some b
        · simp [hb, Function.iterate_succ_apply']
        · simp [hb]

/-- A toggle that fails turns its flag back on whatever list is on show. -/
theorem LateStep.rolledBack {toggle : Toggle} (h : LateStep k t (.land e) u) (he : Engaged t)
    (hm : toggle ∈ t.catalog.pending) (hw : e.await = .favorite toggle.id)
    (hfail : e.flag? = none) :
    u.catalog.shown.roster = t.catalog.shown.roster.mark toggle.id toggle.former := by
  obtain ⟨_, reply, taken, hans, hc⟩ := h.land_catalog
  obtain ⟨r, w, answer, ticket, epoch, before⟩ := e
  simp only at reply hans hc hw
  subst hans hw
  cases reply with
  | ok f => cases hfail
  | error b =>
    have hpend := Catalog.pendingFor?_of_mem he.nodup hm
    rw [hc, ← Toggle.rollBack_applied (he.applied _ hm)]
    simp only [Catalog.resume, Catalog.settleToggle_error hpend]
    rfl

/-- A toggle that fails after such searches puts the counter back just if its companion is still on
the list and no search has found it with the flag from before, or the counter is at the end of its
range. The other toggles without an answer are to be seen on the results. -/
theorem failed_toggle_counted (h : LateReachable k s) (hp : s.catalog.pendingFor? id = none)
    (hb : s.catalog.shown.roster.flag? id = some b)
    (hlit : s.catalog.shown.roster.lit ≤ s.catalog.shown.roster.favorites.toNat)
    (hroom : s.catalog.shown.roster.favorites.toNat < 2 ^ 64 - 1)
    (hs : Searches k s.tickets (s.start (.toggle id)) ps t) (hf : LateStep k t (.land e) u)
    (hw : e.await = .favorite id) (hfail : e.flag? = none)
    (hother : ∀ p ∈ ps, ∀ x ∈ s.catalog.pending, ∀ v, p.flag? x.id = some v → v = x.optimistic) :
    u.catalog.shown.roster.favorites = s.catalog.shown.roster.favorites ↔
      (t.catalog.shown.roster.flag? id).isSome ∧
        ((∀ p ∈ ps, p.flag? id ≠ some b) ∨
          Roster.count (!b) (Roster.count (!b) s.catalog.shown.roster.favorites) =
            Roster.count (!b) s.catalog.shown.roster.favorites) := by
  have hun := undecided_searches
    (undecided_toggle (ticketed_lateReachable h) (engaged_lateReachable h) hp hb) hs hother
  have hlow : b = true → 0 < s.catalog.shown.roster.favorites.toNat := by
    rintro rfl
    obtain ⟨x, hx, _, hfav⟩ := Roster.mem_of_flag? hb
    have : 0 < s.catalog.shown.roster.lit := List.countP_pos_iff.mpr ⟨x, hx, hfav⟩
    omega
  have hmem : (⟨id, b, .applied⟩ : Toggle) ∈ t.catalog.pending := by simp [hun.pending]
  have hcount : (∀ p ∈ ps, p.flag? id ≠ some b) ↔
      (ps.countP fun p => p.flag? id = some b) = 0 := by
    simp [List.countP_eq_zero]
  rw [hf.rolledBack hun.engaged hmem hw hfail, Roster.favorites_mark, hun.favorites, hcount]
  cases hflag : t.catalog.shown.roster.flag? id with
  | none => simpa using Roster.count_on_ne hlow hroom
  | some v =>
    have hv : v = !b := hun.engaged.shown _ hmem v hflag
    rw [hv, if_pos rfl, Roster.count_back_eq hlow hroom, Option.isSome_some]
    exact (and_iff_right rfl).symm

/-- Bob's toggle waits, and Ann's fails after a search has found both as they are shown. -/
theorem found_as_shown :
    ∃ s ps t e u, LateReachable (fun _ _ _ _ => True) s ∧ s.catalog.pending.map (·.id) = [2] ∧
      s.catalog.pendingFor? 1 = none ∧ s.catalog.shown.roster.flag? 1 = some false ∧
      s.catalog.shown.roster.lit ≤ s.catalog.shown.roster.favorites.toNat ∧
      s.catalog.shown.roster.favorites.toNat < 2 ^ 64 - 1 ∧
      Searches (fun _ _ _ _ => True) s.tickets (s.start (.toggle 1)) ps t ∧ ps.length = 1 ∧
      (∀ p ∈ ps, ∀ x ∈ s.catalog.pending, ∀ v, p.flag? x.id = some v → v = x.optimistic) ∧
      LateStep (fun _ _ _ _ => True) t (.land e) u ∧ e.await = .favorite 1 ∧ e.flag? = none ∧
      (t.catalog.shown.roster.flag? 1).isSome ∧ ∀ p ∈ ps, p.flag? 1 ≠ some false := by
  let found : Page :=
    { companions := [{ id := 1, name := "Ann", isFavorite := true }, { id := 2, name := "Bob" }] }
  have h := (LateReachable.fresh (fun _ _ _ _ => True) {2}).step (.step (.start _ (.load {})))
  have h := h.step (.step (@Step.answer _ _ [] [] _ (.ok Page.annAndBob) {2} rfl rfl trivial))
  have h := h.step (@LateStep.land _ _ [] [] _ _ _ rfl rfl)
  have h := h.step (.step (.start _ (.toggle 2)))
  refine ⟨_, _, _, _, _, h, by decide +kernel, by decide +kernel, by decide +kernel,
    by decide +kernel, by decide +kernel,
    (((Searches.refl.tail (.step (.start _ (.search "a"))) trivial).tail
      (.step (@Step.answer _ _ [_, _] [] _ (.ok found) {2} rfl rfl trivial)) trivial).tail
      (@LateStep.land _ _ [_, _] [] _ _ _ rfl rfl) (by exact Nat.le_refl 2)).tail
      (.step (@Step.answer _ _ [_] [] _ (.error (.timeout 20)) {2} rfl rfl trivial)) trivial,
    rfl, ?_, @LateStep.land _ _ [_] [] _ _ _ rfl rfl, rfl, rfl, ?_, ?_⟩ <;> decide +kernel

theorem failed_toggle_counted_found :
    ∃ s ps t e u, LateReachable (fun _ _ _ _ => True) s ∧ s.catalog.pending.map (·.id) = [2] ∧
      s.catalog.pendingFor? 1 = none ∧ s.catalog.shown.roster.flag? 1 = some false ∧
      s.catalog.shown.roster.lit ≤ s.catalog.shown.roster.favorites.toNat ∧
      s.catalog.shown.roster.favorites.toNat < 2 ^ 64 - 1 ∧
      Searches (fun _ _ _ _ => True) s.tickets (s.start (.toggle 1)) ps t ∧ ps.length = 1 ∧
      (∀ p ∈ ps, ∀ x ∈ s.catalog.pending, ∀ v, p.flag? x.id = some v → v = x.optimistic) ∧
      LateStep (fun _ _ _ _ => True) t (.land e) u ∧ e.await = .favorite 1 ∧ e.flag? = none ∧
      u.catalog.shown.roster.favorites = s.catalog.shown.roster.favorites := by
  obtain ⟨s, ps, t, e, u, h, hpend, hp, hb, hlit, hroom, hs, hps, hother, hf, hw, hfail, hon,
    hnew⟩ := found_as_shown
  exact ⟨s, ps, t, e, u, h, hpend, hp, hb, hlit, hroom, hs, hps, hother, hf, hw, hfail,
    (failed_toggle_counted h hp hb hlit hroom hs hf hw hfail hother).mpr ⟨hon, Or.inl hnew⟩⟩

/-- Ann is not a favorite, is turned over, is found as she was, and her toggle fails. -/
theorem failed_toggle_miscounted :
    ∃ s ps t e u, LateReachable (fun _ _ _ _ => True) s ∧
      s.catalog.pendingFor? 1 = none ∧ s.catalog.shown.roster.flag? 1 = some false ∧
      s.catalog.shown.roster.lit = 0 ∧ s.catalog.shown.roster.favorites = 0 ∧
      Searches (fun _ _ _ _ => True) s.tickets (s.start (.toggle 1)) ps t ∧
      LateStep (fun _ _ _ _ => True) t (.land e) u ∧ e.await = .favorite 1 ∧ e.flag? = none ∧
      u.catalog.shown.roster.favorites = 1 := by
  let page : Page := { companions := [{ id := 1, name := "Ann" }] }
  have h := (LateReachable.fresh (fun _ _ _ _ => True) ∅).step (.step (.start _ (.load {})))
  have h := h.step (.step (@Step.answer _ _ [] [] _ (.ok page) ∅ rfl rfl trivial))
  have h := h.step (@LateStep.land _ _ [] [] _ _ _ rfl rfl)
  exact ⟨_, _, _, _, _, h, by decide +kernel, by decide +kernel, by decide +kernel,
    by decide +kernel,
    (((Searches.refl.tail (.step (.start _ (.search "a"))) trivial).tail
      (.step (@Step.answer _ _ [_] [] _ (.ok page) ∅ rfl rfl trivial)) trivial).tail
      (@LateStep.land _ _ [_] [] _ _ _ rfl rfl) (by exact Nat.le_refl 2)).tail
      (.step (@Step.answer _ _ [] [] _ (.error (.timeout 20)) ∅ rfl rfl trivial)) trivial,
    @LateStep.land _ _ [] [] _ _ _ rfl rfl, rfl, rfl, by decide +kernel⟩

end Companions
