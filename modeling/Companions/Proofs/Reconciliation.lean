import Companions.Proofs.PendingToggles
import Companions.Proofs.Provenance

/-! Where a list that arrives takes its flags from, and what its favorite counter owes to the order
in which the toggles that wait are shown on it. -/
namespace Companions

variable {r s : Roster} {id k : Int64} {b v w : Bool} {n : UInt64} {cs : List Companion}
  {ms ns : List (Int64 × Bool)} {ts : List Toggle} {vs ws : List Bool}

theorem Companion.eq_of_unflagged {c d : Companion} (h : c.unflagged = d.unflagged) :
    c = { d with isFavorite := c.isFavorite } := by
  cases c
  cases d
  simpa [unflagged] using h

namespace Roster

/-- A list of the same companions is known by the flags on show. -/
theorem companions_eq_map (hn : (r.companions.map (·.id)).Nodup)
    (hu : s.companions.map Companion.unflagged = r.companions.map Companion.unflagged)
    {f : Companion → Bool} (hf : ∀ c ∈ r.companions, s.flag? c.id = some (f c)) :
    s.companions = r.companions.map fun c => { c with isFavorite := f c } := by
  have hids : s.companions.map (·.id) = r.companions.map (·.id) := by
    simpa [Function.comp_def, Companion.unflagged] using congrArg (List.map (·.id)) hu
  refine List.ext_getElem (by simpa using congrArg List.length hu) fun i hi hi' => ?_
  rw [List.length_map] at hi'
  have he : s.companions[i].unflagged = r.companions[i].unflagged := by
    simpa [hi, hi'] using congrArg (fun cs => cs[i]?) hu
  have hid : s.companions[i].id = r.companions[i].id := by
    simpa [Companion.unflagged] using congrArg Companion.id he
  have hflag := flag?_of_mem (hids ▸ hn) (List.getElem_mem hi)
  rw [hid, hf _ (List.getElem_mem hi')] at hflag
  rw [List.getElem_map, Companion.eq_of_unflagged he, Option.some.inj hflag]

theorem setFirst_comm (h : id ≠ k) :
    setFirst id v (setFirst k w cs) = setFirst k w (setFirst id v cs) := by
  induction cs with
  | nil => rfl
  | cons c cs ih =>
    by_cases hc : c.id = id
    · have hk : c.id ≠ k := fun he => h (hc.symm.trans he)
      simp [setFirst, hc, h]
    · by_cases hk : c.id = k
      · simp [setFirst, hk, h.symm]
      · simp [setFirst, hc, hk, ih]

theorem companions_marks :
    (r.marks ms).companions = ms.foldl (fun cs m => setFirst m.1 m.2 cs) r.companions := by
  induction ms generalizing r with
  | nil => rfl
  | cons m ms ih =>
    rw [List.foldl_cons, ← companions_mark]
    exact ih (r := r.mark m.1 m.2)

/-- Marks of different companions may be made in any order. -/
theorem companions_marks_perm (hp : ns.Perm ms) (hn : (ms.map Prod.fst).Nodup) :
    (r.marks ns).companions = (r.marks ms).companions := by
  rw [companions_marks, companions_marks]
  refine (hp.symm.foldl_eq' (fun m hm m' hm' cs => ?_) _).symm
  by_cases he : m.1 = m'.1
  · rw [List.inj_on_of_nodup_map hn hm hm' he]
  · exact setFirst_comm (Ne.symm he)

/-- Count changes one after the other. -/
def tally (vs : List Bool) (n : UInt64) : UInt64 := vs.foldl (fun n v => count v n) n

/-- The flags that marks turn over, by their new values. -/
def turns (ms : List (Int64 × Bool)) (r : Roster) : List Bool :=
  ms.filterMap fun m => if r.flag? m.1 = some !m.2 then some m.2 else none

theorem turns_mark (h : id ∉ ms.map Prod.fst) : (r.mark id v).turns ms = r.turns ms := by
  refine List.filterMap_congr fun m hm => ?_
  have hne : m.1 ≠ id := fun he => h (he ▸ List.mem_map_of_mem hm)
  rw [flag?_mark, if_neg hne]

theorem favorites_marks (hn : (ms.map Prod.fst).Nodup) :
    (r.marks ms).favorites = tally (r.turns ms) r.favorites := by
  induction ms generalizing r with
  | nil => rfl
  | cons m ms ih =>
    simp only [List.map_cons, List.nodup_cons] at hn
    refine (ih (r := r.mark m.1 m.2) hn.2).trans ?_
    rw [turns_mark hn.1, favorites_mark]
    by_cases h : r.flag? m.1 = some !m.2 <;> simp [turns, tally, h]

/-- With the marks of one value apart, the changes to that value are apart. -/
theorem turns_filter :
    r.turns (ms.filter fun m => m.2 == v) = List.replicate ((r.turns ms).count v) v := by
  induction ms with
  | nil => rfl
  | cons m ms ih =>
    by_cases hv : m.2 = v <;> by_cases h : r.flag? m.1 = some !m.2 <;>
      simp_all [turns, List.replicate_succ]

theorem tally_append : tally (vs ++ ws) n = tally ws (tally vs n) := List.foldl_append

theorem tally_replicate (j : Nat) : tally (List.replicate j v) n = (count v)^[j] n := by
  induction j generalizing n with
  | zero => rfl
  | succ j ih => exact ih

/-- A counter that stays within its range does not tell in which order it counted. -/
theorem toNat_tally (h0 : vs.count false ≤ n.toNat) (h1 : n.toNat + vs.count true < 2 ^ 64) :
    (tally vs n).toNat + vs.count false = n.toNat + vs.count true := by
  induction vs generalizing n with
  | nil => rfl
  | cons v vs ih =>
    change (tally vs (count v n)).toNat + _ = _
    cases v with
    | false =>
      simp only [List.count_cons_self, List.count_cons_of_ne, ne_eq, Bool.false_eq_true,
        not_false_eq_true] at h0 h1 ⊢
      have hn : (count false n).toNat = n.toNat - 1 := toNat_decrease (by omega)
      have := ih (n := count false n) (by omega) (by omega)
      omega
    | true =>
      simp only [List.count_cons_self, List.count_cons_of_ne, ne_eq, reduceCtorEq,
        not_false_eq_true] at h0 h1 ⊢
      have hn : (count true n).toNat = n.toNat + 1 := toNat_increase (by omega)
      have := ih (n := count true n) (by omega) (by omega)
      omega

/-- The changes may be counted in any order if all have one direction, or if the counter stays
within its range whatever the order. -/
def Orderless (ups downs : Nat) (n : UInt64) : Prop :=
  ups = 0 ∨ downs = 0 ∨ downs ≤ n.toNat ∧ n.toNat + ups < 2 ^ 64

theorem tally_perm (hp : ws.Perm vs) (h : Orderless (vs.count true) (vs.count false) n) :
    tally ws n = tally vs n := by
  have halike (v : Bool) (hv : vs.count (!v) = 0) : tally ws n = tally vs n := by
    have hvs : ∀ b ∈ vs, b = v := fun b hb => by
      by_contra hne
      exact List.count_eq_zero.mp hv (Bool.eq_not_of_ne hne ▸ hb)
    rw [List.eq_replicate_of_mem hvs, List.eq_replicate_of_mem fun b hb => hvs b (hp.subset hb),
      hp.length_eq]
  rcases h with h | h | ⟨h0, h1⟩
  · exact halike false h
  · exact halike true h
  · have hvs := toNat_tally h0 h1
    have hws : (tally ws n).toNat + ws.count false = n.toNat + ws.count true :=
      toNat_tally (by rwa [hp.count_eq]) (by rwa [hp.count_eq])
    rw [hp.count_eq, hp.count_eq] at hws
    rw [← UInt64.toNat_inj]
    omega

/-- If it makes no difference which direction is counted first, the order makes none at all. -/
theorem orderless_of_ends {ups downs : Nat}
    (h : tally (List.replicate ups true ++ List.replicate downs false) n =
      tally (List.replicate downs false ++ List.replicate ups true) n) :
    Orderless ups downs n := by
  have hn := n.toNat_lt
  have he := congrArg UInt64.toNat h
  simp only [tally_append, tally_replicate, toNat_count_iterate, if_true, Bool.false_eq_true,
    if_false] at he
  unfold Orderless
  omega

end Roster

namespace Catalog

variable {c : Catalog} {page : Page} {counted : Bool}

/-- A page as it arrives; a search result takes over the counter on show. -/
def arriving (page : Page) (counted : Bool) (c : Catalog) : Roster :=
  ⟨page.companions, if counted then page.favorites else c.shown.roster.favorites⟩

/-- A page with the answers since its request, before the toggles that wait are shown on it. -/
def replayed (page : Page) (counted : Bool) (c : Catalog) : Roster :=
  (c.arriving page counted).marks c.confirmed

/-- How many of the toggles that wait turn a flag of the page to that value. -/
def turned (v : Bool) (page : Page) (counted : Bool) (c : Catalog) : Nat :=
  c.pending.countP fun t => t.optimistic == v && (c.replayed page counted).flag? t.id == some !v

theorem display_roster :
    (c.display page counted).shown.roster =
      (c.replayed page counted).marks (c.pending.map Toggle.asMark) := by
  simp only [display, reconcile_eq_marks, Roster.marks_append]
  rfl

theorem count_turns (v : Bool) :
    ((c.replayed page counted).turns (c.pending.map Toggle.asMark)).count v =
      c.turned v page counted := by
  rw [Roster.turns, List.count, List.countP_filterMap, List.countP_map, turned]
  refine List.countP_congr fun t _ => ?_
  by_cases hv : t.optimistic = v
  · subst hv
    by_cases h : (c.replayed page counted).flag? t.id = some !t.optimistic <;>
      simp [Toggle.asMark, h]
  · by_cases h : (c.replayed page counted).flag? t.id = some !t.optimistic <;>
      simp [Toggle.asMark, h, hv]

/-- Each companion of a page is shown with the flag of the toggle that waits for it, else with the
answer that came in last since the request, else with its own. The difference between the counter
and the favorites stays that of the page, if the counter has room for all its companions. -/
theorem display_sources (hpage : (page.companions.map (·.id)).Nodup)
    (hpending : (c.pending.map (·.id)).Nodup) :
    (c.display page true).shown.companions =
        page.companions.map (fun x =>
          { x with
            isFavorite := (((c.pendingFor? x.id).map (·.optimistic)).or
              (Roster.latest? x.id c.confirmed)).getD x.isFavorite }) ∧
      (Roster.Roomy ⟨page.companions, page.favorites⟩ →
        ((c.display page true).shown.roster.favorites.toNat -
            (c.display page true).shown.roster.lit : Int) =
          page.favorites.toNat - page.companions.countP (·.isFavorite)) := by
  constructor
  · refine Roster.companions_eq_map (r := ⟨page.companions, page.favorites⟩) hpage
      (map_display page true) fun x hx => ?_
    exact (flag?_reconcile hpending).trans
      (congrArg (Option.map _) (Roster.flag?_of_mem hpage hx))
  · intro h
    have hb := (Roster.marks_balance h (c.confirmed ++ c.pending.map Toggle.asMark)).2
    rw [Roster.marks_append] at hb
    rw [display_roster]
    simp only [Roster.lit, replayed, arriving, if_true] at hb ⊢
    omega

/-- Ann's last answer is on top of the page, Bob's toggle on top of his answer. Cleo is as she came,
and a toggle and an answer are not of this page. -/
theorem display_sources_mixed :
    ∃ (c : Catalog) (page : Page), (page.companions.map (·.id)).Nodup ∧
      (c.pending.map (·.id)).Nodup ∧ Roster.Roomy ⟨page.companions, page.favorites⟩ ∧
      c.confirmed = [(1, false), (2, false), (4, true), (1, true)] ∧
      c.pending.map Toggle.asMark = [(2, true), (5, true)] ∧
      page.companions.map (fun x => (x.id, x.isFavorite)) = [(1, false), (2, false), (3, true)] ∧
      (c.display page true).shown.companions.map (fun x => (x.id, x.isFavorite)) =
        [(1, true), (2, true), (3, true)] ∧
      ((c.display page true).shown.roster.favorites.toNat -
        (c.display page true).shown.roster.lit : Int) = 4 := by
  let page : Page :=
    { companions := [{ id := 1, name := "Ann" }, { id := 2, name := "Bob" },
        { id := 3, name := "Cleo", isFavorite := true }]
      favorites := 5 }
  let c : Catalog :=
    { cache := .ofCapacity PageCache.defaultTtl PageCache.defaultCapacity
      confirmed := [(1, false), (2, false), (4, true), (1, true)]
      pending := [⟨2, false, .applied⟩, ⟨5, false, .applied⟩] }
  have hroomy : Roster.Roomy ⟨page.companions, page.favorites⟩ := ⟨by decide, by decide⟩
  obtain ⟨hshown, hbalance⟩ := @display_sources c page (by decide) (by decide)
  refine ⟨c, page, by decide, by decide, hroomy, rfl, rfl, rfl, ?_, (hbalance hroomy).trans rfl⟩
  rw [hshown]
  rfl

theorem nodup_asMark (hn : (c.pending.map (·.id)).Nodup) :
    ((c.pending.map Toggle.asMark).map Prod.fst).Nodup := by
  simpa [Toggle.asMark, Function.comp_def] using hn

theorem display_favorites (hn : (c.pending.map (·.id)).Nodup) :
    (c.display page counted).shown.roster.favorites =
      Roster.tally ((c.replayed page counted).turns (c.pending.map Toggle.asMark))
        (c.replayed page counted).favorites := by
  rw [display_roster, Roster.favorites_marks (nodup_asMark hn)]

/-- The toggles that wait, those to one value first. -/
def sides (v : Bool) (c : Catalog) : List Toggle :=
  (c.pending.filter fun t => t.optimistic == v) ++ c.pending.filter fun t => !(t.optimistic == v)

theorem sides_perm (v : Bool) : (c.sides v).Perm c.pending := List.filter_append_perm _ _

theorem turns_sides (v : Bool) :
    (c.replayed page counted).turns ((c.sides v).map Toggle.asMark) =
      List.replicate (c.turned v page counted) v ++
        List.replicate (c.turned (!v) page counted) !v := by
  have hnot : (fun t : Toggle => !(t.optimistic == v)) = fun t => t.optimistic == !v := by
    funext t
    cases t.optimistic <;> cases v <;> rfl
  have hmap (w : Bool) : (c.pending.filter fun t => t.optimistic == w).map Toggle.asMark =
      (c.pending.map Toggle.asMark).filter fun m => m.2 == w := by
    rw [List.filter_map]
    rfl
  rw [sides, hnot, List.map_append, hmap, hmap, Roster.turns, List.filterMap_append]
  exact congrArg₂ _ (Roster.turns_filter.trans (by rw [count_turns]))
    (Roster.turns_filter.trans (by rw [count_turns]))

theorem display_companions_perm (hn : (c.pending.map (·.id)).Nodup) (hp : ts.Perm c.pending) :
    (({ c with pending := ts } : Catalog).display page counted).shown.companions =
      (c.display page counted).shown.companions := by
  unfold Snapshot.companions
  rw [display_roster, display_roster]
  exact Roster.companions_marks_perm (hp.map _) (nodup_asMark hn)

/-- A counter with room for all companions follows their flags, which do not depend on the order. -/
theorem display_favorites_roomy (h : (c.arriving page counted).Roomy)
    (hn : (c.pending.map (·.id)).Nodup) (hp : ts.Perm c.pending) :
    (({ c with pending := ts } : Catalog).display page counted).shown.roster.favorites =
      (c.display page counted).shown.roster.favorites := by
  have hreplayed := (Roster.marks_balance h c.confirmed).1
  have h1 := (Roster.marks_balance hreplayed (ts.map Toggle.asMark)).2
  have h2 := (Roster.marks_balance hreplayed (c.pending.map Toggle.asMark)).2
  have hcs := Roster.companions_marks_perm (r := (c.arriving page counted).marks c.confirmed)
    (hp.map Toggle.asMark) (nodup_asMark hn)
  rw [display_roster, display_roster, ← UInt64.toNat_inj]
  simp only [Roster.lit, hcs] at h1 h2
  simp only [replayed, arriving] at h1 h2 ⊢
  omega

theorem display_favorites_perm_iff (hn : (c.pending.map (·.id)).Nodup) :
    (∀ ts, ts.Perm c.pending →
        (({ c with pending := ts } : Catalog).display page counted).shown.roster.favorites =
          (c.display page counted).shown.roster.favorites) ↔
      Roster.Orderless (c.turned true page counted) (c.turned false page counted)
        (c.replayed page counted).favorites := by
  have hcount {ts} (hp : ts.Perm c.pending) :
      (({ c with pending := ts } : Catalog).display page counted).shown.roster.favorites =
        Roster.tally ((c.replayed page counted).turns (ts.map Toggle.asMark))
          (c.replayed page counted).favorites :=
    display_favorites (c := { c with pending := ts }) ((hp.map _).nodup_iff.mpr hn)
  constructor
  · -- Of all orders, the two that keep the directions apart are as far from each other as can be.
    intro h
    have hends := (h _ (c.sides_perm true)).trans (h _ (c.sides_perm false)).symm
    rw [hcount (c.sides_perm true), hcount (c.sides_perm false), turns_sides, turns_sides] at hends
    exact Roster.orderless_of_ends hends
  · intro h ts hp
    rw [hcount hp, display_favorites hn]
    refine Roster.tally_perm ((hp.map _).filterMap _) ?_
    rwa [count_turns, count_turns]

/-- The toggles that wait may be shown on a page in any order as far as the companions go. The
counter is the same for every order just if they turn flags in one direction only, or if it stays
within its range whatever the order; so it is if it has room for all companions of the page. -/
theorem display_in_any_order (hn : (c.pending.map (·.id)).Nodup) :
    (∀ ts, ts.Perm c.pending →
        (({ c with pending := ts } : Catalog).display page counted).shown.companions =
          (c.display page counted).shown.companions) ∧
      ((∀ ts, ts.Perm c.pending →
          (({ c with pending := ts } : Catalog).display page counted).shown.roster.favorites =
            (c.display page counted).shown.roster.favorites) ↔
        Roster.Orderless (c.turned true page counted) (c.turned false page counted)
          (c.replayed page counted).favorites) ∧
      ((c.arriving page counted).Roomy →
        Roster.Orderless (c.turned true page counted) (c.turned false page counted)
          (c.replayed page counted).favorites) :=
  ⟨fun _ hp => display_companions_perm hn hp, display_favorites_perm_iff hn,
    fun h => (display_favorites_perm_iff hn).mp fun _ hp => display_favorites_roomy h hn hp⟩

/-- The page counts one favorite and shows three, two of which are turned off. -/
theorem display_in_any_order_downwards :
    ∃ (c : Catalog) (page : Page), (c.pending.map (·.id)).Nodup ∧
      c.pending.map Toggle.asMark = [(1, false), (2, false)] ∧
      page.companions.map (fun x => (x.id, x.isFavorite)) = [(1, true), (2, true), (3, true)] ∧
      page.favorites = 1 ∧ c.pending.reverse.Perm c.pending ∧
      (({ c with pending := c.pending.reverse } : Catalog).display page true).shown.companions =
        (c.display page true).shown.companions ∧
      (({ c with pending := c.pending.reverse } : Catalog).display
        page true).shown.roster.favorites = (c.display page true).shown.roster.favorites := by
  let page : Page :=
    { companions := [{ id := 1, name := "Ann", isFavorite := true },
        { id := 2, name := "Bob", isFavorite := true },
        { id := 3, name := "Cleo", isFavorite := true }]
      favorites := 1 }
  let c : Catalog :=
    { cache := .ofCapacity PageCache.defaultTtl PageCache.defaultCapacity
      pending := [⟨1, true, .applied⟩, ⟨2, true, .applied⟩] }
  have hp : c.pending.reverse.Perm c.pending := List.reverse_perm _
  obtain ⟨hcompanions, hfavorites, _⟩ :=
    @display_in_any_order c page true (by decide)
  exact ⟨c, page, by decide, rfl, rfl, rfl, hp, hcompanions _ hp,
    hfavorites.mpr (Or.inl (by decide)) _ hp⟩

end Catalog

/-- A page without a counter arrives while Ann, a favorite, and Bob, who is none, are turned over.
With Ann first one favorite is counted, with Bob first none. -/
theorem order_counts :
    ∃ (s : Traffic) (page : Page) (ts : List Toggle), LateReachable (fun _ _ _ _ => True) s ∧
      (s.catalog.pending.map (·.id)).Nodup ∧ ts.Perm s.catalog.pending ∧
      (s.catalog.display page true).shown.roster.favorites = 1 ∧
      (({ s.catalog with pending := ts } : Catalog).display page true).shown.roster.favorites =
        0 := by
  let page : Page :=
    { companions := [{ id := 1, name := "Ann", isFavorite := true }, { id := 2, name := "Bob" }] }
  have h := (LateReachable.fresh (fun _ _ _ _ => True) ∅).step (.step (.start _ (.load {})))
  have h := h.step (.step (@Step.answer _ _ [] [] _ (.ok page) ∅ rfl rfl trivial))
  have h := h.step (@LateStep.land _ _ [] [] _ _ _ rfl rfl)
  have h := h.step (.step (.start _ (.toggle 1)))
  have h := h.step (.step (.start _ (.toggle 2)))
  have h := h.step (.step (.start _ .reload))
  exact ⟨_, page, _, h, by decide +kernel, List.reverse_perm _, by decide +kernel,
    by decide +kernel⟩

end Companions
