import Companions.Proofs.PendingToggles

/-! Toggles made on one list: what is left of a toggle that is turned back at once, and what any
number of them keeps, in whatever order they are made and settled. -/
namespace Companions

variable {r : Roster} {id : Int64} {b v : Bool} {n : UInt64} {cs : List Companion}
  {toggle : Toggle}

namespace Roster

/-- The end of the counter's range in a direction. -/
def bound (v : Bool) : UInt64 := if v then 18446744073709551615 else 0

/-- Between two states of a list a flag was turned over, and the counter could not follow. -/
def Saturates (r s : Roster) : Prop := s.companions ≠ r.companions ∧ s.favorites = r.favorites

theorem count_eq_self : count v n = n ↔ n = bound v := by
  have h := toNat_count_iterate v 1 n
  have hn := n.toNat_lt
  simp only [Function.iterate_one] at h
  cases v with
  | false =>
    simp only [Bool.false_eq_true, if_false] at h
    simp only [← UInt64.toNat_inj, h, bound, Bool.false_eq_true, if_false, UInt64.reduceToNat]
    omega
  | true =>
    simp only [if_true] at h
    simp only [← UInt64.toNat_inj, h, bound, if_true, UInt64.reduceToNat]
    omega

/-- Counting back is exact where counting was. -/
theorem count_back (h : n ≠ bound !b) : count b (count (!b) n) = n := by
  have h1 := toNat_count_iterate (!b) 1 n
  have h2 := toNat_count_iterate b 1 (count (!b) n)
  have hn := n.toNat_lt
  simp only [Function.iterate_one] at h1 h2
  rw [← UInt64.toNat_inj, h2, h1]
  cases b with
  | false =>
    simp only [bound, Bool.not_false, if_true, ne_eq, ← UInt64.toNat_inj, UInt64.reduceToNat] at h
    simp only [Bool.not_false, if_true, Bool.false_eq_true, if_false]
    omega
  | true =>
    simp only [bound, Bool.not_true, Bool.false_eq_true, if_false, ne_eq, ← UInt64.toNat_inj,
      UInt64.reduceToNat] at h
    simp only [Bool.not_true, Bool.false_eq_true, if_false, if_true]
    omega

theorem setFirst_setFirst : setFirst id v (setFirst id b cs) = setFirst id v cs := by
  induction cs with
  | nil => rfl
  | cons c cs ih =>
    by_cases hc : c.id = id
    · simp [setFirst, hc]
    · simp [setFirst, hc, ih]

/-- A companion that is turned over and back is as it was. -/
theorem companions_mark_back (h : r.flag? id = some b) :
    ((r.mark id !b).mark id b).companions = r.companions := by
  obtain ⟨c, hc, rfl⟩ := Option.map_eq_some_iff.mp h
  rw [companions_mark, companions_mark, setFirst_setFirst]
  exact setFirst_of_flag hc

theorem favorites_mark_back (h : r.flag? id = some b) :
    ((r.mark id !b).mark id b).favorites = count b (count (!b) r.favorites) := by
  have h1 : (r.mark id !b).flag? id = some !b := by simp [flag?_mark, h]
  simp [favorites_mark, h1, h]

theorem exists_flag (h : id ∈ r.companions.map (·.id)) : ∃ b, r.flag? id = some b := by
  obtain ⟨c, hc, rfl⟩ := List.mem_map.mp h
  have hsome : (r.companions.find? fun x => x.id == c.id).isSome :=
    List.find?_isSome.mpr ⟨c, hc, by simp⟩
  obtain ⟨x, hx⟩ := Option.isSome_iff_exists.mp hsome
  exact ⟨x.isFavorite, by simp [flag?, find?, hx]⟩

theorem not_saturates_mark (h : r.Roomy) (id : Int64) (v : Bool) : ¬ r.Saturates (r.mark id v) := by
  rintro ⟨hcs, hn⟩
  by_cases hf : r.flag? id = some !v
  · -- The companion that is turned over is itself one for which the counter has room.
    obtain ⟨x, hx, _, hfav⟩ := mem_of_flag? hf
    obtain ⟨h1, h2⟩ := h
    rw [favorites_mark, if_pos hf] at hn
    have he := count_eq_self.mp hn
    cases v with
    | false =>
      have hlit : 0 < r.lit := List.countP_pos_iff.mpr ⟨x, hx, hfav⟩
      simp [he, bound] at h1
      omega
    | true =>
      have hunlit : 0 < r.unlit := List.countP_pos_iff.mpr ⟨x, hx, by simpa using hfav⟩
      simp [he, bound] at h2
      omega
  · refine hcs (congrArg companions (mark_of_agree fun b hb => ?_))
    rw [hb] at hf
    cases b <;> cases v <;> simp_all

end Roster

namespace Toggle

theorem apply_mark {s : Roster} (h : apply id r = some (toggle, s)) :
    ∃ v, s = r.mark id v := by
  obtain ⟨c, _, he⟩ := Option.map_eq_some_iff.mp h
  exact ⟨!c.isFavorite, (congrArg Prod.snd he).symm⟩

/-- A toggle that is turned back at once leaves all companions as they were. It leaves the counter
as it was just if the counter could follow the toggle; else the counter is one away. -/
theorem turned_back (h : id ∈ r.companions.map (·.id)) :
    ∃ b toggle turned back, r.flag? id = some b ∧ apply id r = some (toggle, turned) ∧
      toggle.rollBack turned = ({ toggle with phase := .rolledBack }, back) ∧
      back.companions = r.companions ∧
      (back.favorites = r.favorites ↔ r.favorites ≠ Roster.bound !b) ∧
      back.favorites =
        if r.favorites = Roster.bound !b then Roster.count b r.favorites else r.favorites := by
  obtain ⟨b, hb⟩ := Roster.exists_flag h
  have hn : ((r.mark id !b).mark id b).favorites =
      if r.favorites = Roster.bound !b then Roster.count b r.favorites else r.favorites := by
    rw [Roster.favorites_mark_back hb]
    split
    · rename_i he
      rw [Roster.count_eq_self.mpr he]
    · rename_i he
      exact Roster.count_back he
  refine ⟨b, _, _, _, hb, apply_of_flag hb, rfl, Roster.companions_mark_back hb, ?_, hn⟩
  rw [hn]
  split
  · rename_i he
    have hne : Roster.bound (!b) ≠ Roster.bound b := by cases b <;> decide
    exact iff_of_false (fun h => hne (he ▸ Roster.count_eq_self.mp h)) (not_not_intro he)
  · rename_i he
    exact iff_of_true rfl he

/-- The counter is at the top of its range, and two companions have the id. -/
theorem turned_back_at_top :
    ∃ r : Roster, r.companions.map (·.id) = [1, 1, 2] ∧ r.flag? 1 = some true ∧
      r.favorites = 18446744073709551615 ∧ 1 ∈ r.companions.map (·.id) ∧
      ∃ toggle turned back, apply 1 r = some (toggle, turned) ∧
        toggle.rollBack turned = ({ toggle with phase := .rolledBack }, back) ∧
        back.companions = r.companions ∧ back.favorites = r.favorites := by
  let r : Roster :=
    ⟨[{ id := 1, name := "Ann", isFavorite := true }, { id := 1, name := "Anna" },
      { id := 2, name := "Bob" }], 18446744073709551615⟩
  have hid : 1 ∈ r.companions.map (·.id) := by decide
  obtain ⟨b, toggle, turned, back, hb, ha, hr, hc, hn, _⟩ := turned_back hid
  have htrue : b = true := by
    have : r.flag? 1 = some true := by decide
    simpa using hb.symm.trans this
  exact ⟨r, by decide, by decide, rfl, hid, toggle, turned, back, ha, hr, hc,
    hn.mpr (by rw [htrue]; decide)⟩

end Toggle

/-- A page without a counter shows a favorite. Her toggle cannot be counted, and when it is turned
back it is. -/
theorem turned_back_miscounted :
    ∃ s toggle turned, LateReachable (fun _ _ _ _ => True) s ∧
      s.catalog.shown.roster.companions.map (·.id) = [1] ∧ s.catalog.shown.roster.favorites = 0 ∧
      Toggle.apply 1 s.catalog.shown.roster = some (toggle, turned) ∧
      (toggle.rollBack turned).2.favorites = 1 := by
  let page : Page := { companions := [{ id := 1, name := "Ann", isFavorite := true }] }
  have h := (LateReachable.fresh (fun _ _ _ _ => True) ∅).step (.step (.start _ (.load {})))
  have h := h.step (.step (@Step.answer _ _ [] [] _ (.ok page) ∅ rfl rfl trivial))
  have h := h.step (@LateStep.land _ _ [] [] _ _ _ rfl rfl)
  exact ⟨_, _, _, h, by decide +kernel, by decide +kernel, rfl, by decide +kernel⟩

/-- A list with the toggles that were made on it, oldest first. -/
structure ToggledList where
  roster : Roster
  toggles : List Toggle := []

namespace ToggledList

/-- What can be done on the list. A toggle goes by its place among those made. -/
inductive Act
  | apply (id : Int64)
  | confirm (place : Nat) (answer : Bool)
  | rollBack (place : Nat)

variable {s t : ToggledList} {a : Act} {acts : List Act} {place : Nat}
  {f : Toggle → Roster → Toggle × Roster}

/-- Settle a toggle, if there is one at that place. -/
def settle (place : Nat) (f : Toggle → Roster → Toggle × Roster) (s : ToggledList) :
    ToggledList :=
  match s.toggles[place]? with
  | none => s
  | some toggle =>
    let (toggle, roster) := f toggle s.roster
    ⟨roster, s.toggles.set place toggle⟩

def act (s : ToggledList) : Act → ToggledList
  | .apply id =>
    match Toggle.apply id s.roster with
    | none => s
    | some (toggle, roster) => ⟨roster, s.toggles ++ [toggle]⟩
  | .confirm place answer => s.settle place fun toggle => toggle.confirm answer
  | .rollBack place => s.settle place Toggle.rollBack

def run (acts : List Act) (s : ToggledList) : ToggledList := acts.foldl act s

theorem run_append (xs ys : List Act) : s.run (xs ++ ys) = (s.run xs).run ys :=
  List.foldl_append

/-- A property that each act keeps holds after any acts. -/
theorem run_invariant {P : ToggledList → Prop} (h : P s) (hact : ∀ t a, P t → P (t.act a)) :
    P (s.run acts) := by
  induction acts generalizing s with
  | nil => exact h
  | cons a acts ih => exact ih (hact s a h)

theorem settle_roster
    (hf : ∀ toggle r, (f toggle r).2 = r ∨ ∃ v, (f toggle r).2 = r.mark toggle.id v) :
    (s.settle place f).roster = s.roster ∨
      ∃ id v, (s.settle place f).roster = s.roster.mark id v := by
  unfold settle
  split
  · exact Or.inl rfl
  · rename_i toggle _
    rcases hf toggle s.roster with h | ⟨v, h⟩
    · exact Or.inl h
    · exact Or.inr ⟨toggle.id, v, h⟩

/-- An act marks at most one flag. -/
theorem act_roster (s : ToggledList) (a : Act) :
    (s.act a).roster = s.roster ∨ ∃ id v, (s.act a).roster = s.roster.mark id v := by
  cases a with
  | apply id =>
    simp only [act]
    split
    · exact Or.inl rfl
    · rename_i h
      exact Or.inr ⟨id, Toggle.apply_mark h⟩
  | confirm place answer =>
    refine settle_roster fun toggle r => ?_
    by_cases h : toggle.phase = .applied
    · exact Or.inr ⟨answer, Toggle.confirm_applied h⟩
    · exact Or.inl (congrArg Prod.snd (Toggle.confirm_settled h))
  | rollBack place =>
    refine settle_roster fun toggle r => ?_
    by_cases h : toggle.phase = .applied
    · exact Or.inr ⟨toggle.former, Toggle.rollBack_applied h⟩
    · exact Or.inl (congrArg Prod.snd (Toggle.rollBack_settled h))

theorem settle_still {toggle : Toggle} (h : s.toggles[place]? = some toggle)
    (hf : f toggle s.roster = (toggle, s.roster)) : s.settle place f = s := by
  obtain ⟨hlt, he⟩ := List.getElem?_eq_some_iff.mp h
  have hset : s.toggles.set place toggle = s.toggles := by
    rw [← he, List.set_getElem_self hlt]
  simp [settle, h, hf, hset]

/-- A settled toggle cannot be settled again. -/
theorem act_settled {toggle : Toggle} (h : s.toggles[place]? = some toggle)
    (hp : toggle.phase ≠ .applied) :
    (∀ answer, s.act (.confirm place answer) = s) ∧ s.act (.rollBack place) = s :=
  ⟨fun answer => settle_still (f := fun t => t.confirm answer) h (Toggle.confirm_settled hp),
    settle_still (f := Toggle.rollBack) h (Toggle.rollBack_settled hp)⟩

theorem settle_keeps {toggle : Toggle} {q : Nat} (h : s.toggles[place]? = some toggle)
    (hf : f toggle s.roster = (toggle, s.roster)) :
    (s.settle q f).toggles[place]? = some toggle := by
  by_cases hq : q = place
  · subst hq
    rw [settle_still h hf, h]
  · unfold settle
    split
    · exact h
    · simp [List.getElem?_set_ne hq, h]

/-- A settled toggle stays as it is whatever is done on the list. -/
theorem act_keeps {toggle : Toggle} (h : s.toggles[place]? = some toggle)
    (hp : toggle.phase ≠ .applied) : (s.act a).toggles[place]? = some toggle := by
  cases a with
  | apply id =>
    simp only [act]
    split
    · exact h
    · obtain ⟨hlt, _⟩ := List.getElem?_eq_some_iff.mp h
      rw [List.getElem?_append_left hlt, h]
  | confirm q answer => exact settle_keeps h (Toggle.confirm_settled hp)
  | rollBack q => exact settle_keeps h (Toggle.rollBack_settled hp)

/-- What any acts on a list keep, if its counter has room for all its companions. -/
structure Conserves (s t : ToggledList) : Prop where
  roomy : t.roster.Roomy
  balance : t.roster.favorites.toNat + s.roster.lit = s.roster.favorites.toNat + t.roster.lit
  unflagged : t.roster.companions.map Companion.unflagged =
    s.roster.companions.map Companion.unflagged

theorem conserves_act (h : Conserves s t) (a : Act) : Conserves s (t.act a) := by
  rcases t.act_roster a with he | ⟨id, v, he⟩
  · exact ⟨he ▸ h.roomy, he ▸ h.balance, he ▸ h.unflagged⟩
  · obtain ⟨hroomy, hbalance⟩ := Roster.mark_balance h.roomy id v
    have := h.balance
    refine ⟨he ▸ hroomy, ?_, ?_⟩
    · rw [he]
      omega
    · rw [he, Roster.map_mark _ fun _ _ => rfl, h.unflagged]

theorem conserves_run (h : s.roster.Roomy) (acts : List Act) : Conserves s (s.run acts) :=
  run_invariant ⟨h, rfl, rfl⟩ fun _ a ht => conserves_act ht a

/-- Toggles that share a list, made and settled in any order, leave the companions and their order
alone, and the difference between the counter and the favorites on show. The counter can follow
each of them. A settled toggle stays settled, and nothing comes of settling it again. -/
theorem conserved (h : s.roster.Roomy) (acts : List Act) :
    ((s.run acts).roster.favorites.toNat - (s.run acts).roster.lit : Int) =
        s.roster.favorites.toNat - s.roster.lit ∧
      (s.run acts).roster.companions.map Companion.unflagged =
        s.roster.companions.map Companion.unflagged ∧
      (∀ a, ¬ (s.run acts).roster.Saturates ((s.run acts).act a).roster) ∧
      ∀ place toggle, (s.run acts).toggles[place]? = some toggle → toggle.phase ≠ .applied →
        (∀ more, (s.run (acts ++ more)).toggles[place]? = some toggle) ∧
        (∀ answer, (s.run acts).act (.confirm place answer) = s.run acts) ∧
        (s.run acts).act (.rollBack place) = s.run acts := by
  obtain ⟨hroomy, hbalance, hunflagged⟩ := conserves_run h acts
  refine ⟨by omega, hunflagged, fun a => ?_, fun place toggle ht hp => ⟨fun more => ?_, ?_⟩⟩
  · rcases (s.run acts).act_roster a with he | ⟨id, v, he⟩
    · rw [he]
      exact fun hs => hs.1 rfl
    · rw [he]
      exact Roster.not_saturates_mark hroomy id v
  · rw [run_append]
    exact run_invariant (P := fun u => u.toggles[place]? = some toggle) ht
      fun _ _ hu => act_keeps hu hp
  · exact act_settled ht hp

/-- Two toggles of the first companion of an id that is there twice, the backend's answer to each
against what is shown, and one of another companion that fails and is then answered. -/
theorem conserved_overlapping :
    ∃ (s : ToggledList) (acts : List Act), s.roster.Roomy ∧
      s.roster.companions.map (fun x => (x.id, x.isFavorite)) =
        [(1, true), (2, false), (1, false)] ∧ s.roster.favorites = 5 ∧
      (s.run acts).toggles.map (·.phase) = [.confirmed, .rolledBack, .confirmed] ∧
      (s.run acts).toggles[1]? = some ⟨2, false, .rolledBack⟩ ∧
      ((s.run acts).roster.favorites.toNat - (s.run acts).roster.lit : Int) = 4 ∧
      (s.run acts).roster.companions.map Companion.unflagged =
        s.roster.companions.map Companion.unflagged ∧
      ¬ (s.run acts).roster.Saturates ((s.run acts).act (.apply 1)).roster ∧
      (s.run acts).act (.confirm 1 true) = s.run acts := by
  let s : ToggledList :=
    { roster := ⟨[{ id := 1, name := "Ann", isFavorite := true }, { id := 2, name := "Bob" },
        { id := 1, name := "Anna" }], 5⟩ }
  let acts : List Act :=
    [.apply 1, .apply 2, .apply 1, .confirm 0 false, .rollBack 1, .confirm 2 true]
  have hroomy : s.roster.Roomy := ⟨by decide, by decide⟩
  have hsettled : (s.run acts).toggles[1]? = some ⟨2, false, .rolledBack⟩ := by decide
  obtain ⟨hbalance, hunflagged, hroom, hstill⟩ := conserved hroomy acts
  exact ⟨s, acts, hroomy, rfl, rfl, by decide, hsettled, hbalance.trans rfl, hunflagged,
    hroom (.apply 1), (hstill 1 _ hsettled (by decide)).2.1 true⟩

end ToggledList
end Companions
