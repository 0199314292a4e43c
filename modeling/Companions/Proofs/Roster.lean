import Companions.Catalog.Basic
import Mathlib.Algebra.Group.Nat.Defs
import Mathlib.Logic.Function.Iterate

/-! What marks do to a roster: whose flag they change, and how the counter keeps up with the
flags. -/
namespace Companions

/-- The companion apart from its favorite flag. -/
def Companion.unflagged (c : Companion) : Companion := { c with isFavorite := false }

theorem find?_of_nodup {α : Type} (f : α → Int64) {as : List α} {a : α}
    (hn : (as.map f).Nodup) (ha : a ∈ as) : as.find? (fun b => f b == f a) = some a := by
  induction as with
  | nil => simp at ha
  | cons b as ih =>
    simp only [List.map_cons, List.nodup_cons] at hn
    rcases List.mem_cons.mp ha with rfl | ha
    · simp
    · have hb : f b ≠ f a := fun he => hn.1 (he ▸ List.mem_map_of_mem ha)
      simpa [hb] using ih hn.2 ha

namespace Roster

variable {r : Roster} {id k : Int64} {v : Bool} {cs : List Companion} {ms ns : List (Int64 × Bool)}

/-- The flag on show for an id, which is that of its first companion. -/
def flag? (id : Int64) (r : Roster) : Option Bool := (r.find? id).map (·.isFavorite)

/-- How many favorites are on show. -/
def lit (r : Roster) : Nat := r.companions.countP fun c => c.isFavorite

def unlit (r : Roster) : Nat := r.companions.countP fun c => !c.isFavorite

/-- The counter can follow every change of the flags on show within its range. -/
structure Roomy (r : Roster) : Prop where
  lit_le : r.lit ≤ r.favorites.toNat
  lt_size : r.favorites.toNat + r.unlit < 2 ^ 64

/-- Several marks, one after the other. -/
def marks (ms : List (Int64 × Bool)) (r : Roster) : Roster :=
  ms.foldl (fun r m => r.mark m.1 m.2) r

/-- The value marked last for an id. -/
def latest? (id : Int64) : List (Int64 × Bool) → Option Bool
  | [] => none
  | m :: ms => (latest? id ms).or (if m.1 = id then some m.2 else none)

theorem latest?_append : latest? id (ms ++ ns) = (latest? id ns).or (latest? id ms) := by
  induction ms with
  | nil => simp [latest?]
  | cons m ms ih => simp [latest?, ih, Option.or_assoc]

theorem map_setFirst {α : Type} (f : Companion → α)
    (hf : ∀ c b, f { c with isFavorite := b } = f c) :
    (setFirst id v cs).map f = cs.map f := by
  induction cs with
  | nil => rfl
  | cons c cs ih =>
    simp only [setFirst]
    split
    · simp [hf]
    · simp [ih]

theorem setFirst_of_find?_none (h : cs.find? (fun c => c.id == id) = none) :
    setFirst id v cs = cs := by
  induction cs with
  | nil => rfl
  | cons c cs ih =>
    simp only [List.find?_cons] at h
    split at h
    · simp at h
    · rename_i hc
      simp [setFirst, hc, ih h]

theorem setFirst_of_flag {c : Companion} (h : cs.find? (fun c => c.id == id) = some c) :
    setFirst id c.isFavorite cs = cs := by
  induction cs with
  | nil => rfl
  | cons b cs ih =>
    simp only [List.find?_cons] at h
    split at h
    · rename_i hb
      cases h
      simp [setFirst, hb]
    · rename_i hb
      simp [setFirst, hb, ih h]

/-- Marking always gives the first companion of the id the flag, changed or not. -/
theorem companions_mark : (r.mark id v).companions = setFirst id v r.companions := by
  unfold mark find?
  split
  · rename_i h
    exact (setFirst_of_find?_none h).symm
  · rename_i c h
    split
    · rename_i he
      rw [← beq_iff_eq.mp he]
      exact (setFirst_of_flag h).symm
    · rfl

theorem find?_setFirst :
    (setFirst id v cs).find? (fun c => c.id == k) =
      if k = id then (cs.find? fun c => c.id == k).map ({ · with isFavorite := v })
      else cs.find? fun c => c.id == k := by
  induction cs with
  | nil => simp [setFirst]
  | cons c cs ih =>
    by_cases hc : c.id = id
    · by_cases hk : k = id
      · subst hk
        simp [setFirst, hc]
      · simp [setFirst, hc, hk, Ne.symm hk]
    · by_cases hk : c.id = k
      · have hne : k ≠ id := fun he => hc (hk.trans he)
        simp [setFirst, hk, hne]
      · simp [setFirst, hc, hk, ih]

theorem flag?_mark :
    (r.mark id v).flag? k = if k = id then (r.flag? k).map fun _ => v else r.flag? k := by
  simp only [flag?, find?, companions_mark, find?_setFirst]
  split <;> simp [Function.comp_def]

theorem map_mark {α : Type} (f : Companion → α) (hf : ∀ c b, f { c with isFavorite := b } = f c) :
    (r.mark id v).companions.map f = r.companions.map f := by
  rw [companions_mark, map_setFirst f hf]

theorem map_marks {α : Type} (f : Companion → α) (hf : ∀ c b, f { c with isFavorite := b } = f c) :
    (r.marks ms).companions.map f = r.companions.map f := by
  induction ms generalizing r with
  | nil => rfl
  | cons m ms ih => exact (ih (r := r.mark m.1 m.2)).trans (map_mark f hf)

/-- Each flag is the one marked last, and where no mark was made, the one from before. -/
theorem flag?_marks : (r.marks ms).flag? k = (r.flag? k).map fun b => (latest? k ms).getD b := by
  induction ms generalizing r with
  | nil => simp [marks, latest?]
  | cons m ms ih =>
    refine (ih (r := r.mark m.1 m.2)).trans ?_
    rw [flag?_mark]
    by_cases h : k = m.1
    · cases hl : latest? k ms <;> simp [latest?, h, h ▸ hl, Function.comp_def]
    · cases hl : latest? k ms <;> simp [latest?, h, Ne.symm h, hl]

theorem marks_append : r.marks (ms ++ ns) = (r.marks ms).marks ns := List.foldl_append

theorem mark_of_agree (h : ∀ b, r.flag? id = some b → b = v) : r.mark id v = r := by
  unfold mark
  cases hc : r.find? id with
  | none => rfl
  | some x => simp [h x.isFavorite (by simp [flag?, hc])]

/-- Marks that are there already change nothing, the counter included. -/
theorem marks_of_agree (h : ∀ m ∈ ms, ∀ b, r.flag? m.1 = some b → b = m.2) : r.marks ms = r := by
  induction ms with
  | nil => rfl
  | cons m ms ih =>
    have hm : r.mark m.1 m.2 = r := mark_of_agree (h m (List.mem_cons_self ..))
    have := ih fun n hn => h n (List.mem_cons_of_mem _ hn)
    simpa only [marks, List.foldl_cons, hm] using this

/-- A mark counts if the companion has the other flag. -/
theorem favorites_mark :
    (r.mark id v).favorites = if r.flag? id = some !v then count v r.favorites else r.favorites := by
  unfold mark
  cases hc : r.find? id with
  | none => simp [flag?, hc]
  | some x => cases v <;> cases hx : x.isFavorite <;> simp [flag?, hc, hx]

theorem countP_setFirst (p : Companion → Bool) {c : Companion}
    (h : cs.find? (fun c => c.id == id) = some c) :
    (setFirst id v cs).countP p + (p c).toNat =
      cs.countP p + (p { c with isFavorite := v }).toNat := by
  have hnat : ∀ b : Bool, b.toNat = if b = true then 1 else 0 := by decide
  induction cs with
  | nil => simp at h
  | cons b cs ih =>
    simp only [List.find?_cons] at h
    split at h
    · rename_i hb
      cases h
      simp only [setFirst, hb, if_true, List.countP_cons, hnat]
      omega
    · rename_i hb
      have := ih h
      simp only [setFirst, hb, List.countP_cons] at this ⊢
      simp only [Bool.false_eq_true, if_false, List.countP_cons]
      omega

theorem toNat_increase {n : UInt64} (h : n.toNat + 1 < 2 ^ 64) :
    (increase n).toNat = n.toNat + 1 := by
  have hn : n ≠ 18446744073709551615 := by
    intro he
    subst he
    simp at h
  simp only [increase, if_neg hn, UInt64.toNat_add]
  exact Nat.mod_eq_of_lt h

theorem toNat_decrease {n : UInt64} (h : 0 < n.toNat) : (decrease n).toNat = n.toNat - 1 := by
  have hn : n ≠ 0 := by
    intro he
    subst he
    simp at h
  have h1 : (1 : UInt64) ≤ n := by
    rw [UInt64.le_iff_toNat_le]
    exact h
  simp [decrease, hn, UInt64.toNat_sub_of_le n 1 h1]

/-- Counting several times in one direction stops at the end of the range. -/
theorem toNat_count_iterate (v : Bool) (j : Nat) (n : UInt64) :
    ((count v)^[j] n).toNat = if v then min (n.toNat + j) (2 ^ 64 - 1) else n.toNat - j := by
  induction j generalizing n with
  | zero =>
    have := n.toNat_lt
    cases v <;> simp
    omega
  | succ j ih =>
    rw [Function.iterate_succ_apply, ih]
    cases v with
    | false =>
      simp only [count, Bool.false_eq_true, if_false]
      rcases Nat.eq_zero_or_pos n.toNat with h | h
      · have hn : n = 0 := UInt64.toNat_inj.mp h
        simp [hn, decrease]
      · rw [toNat_decrease h]
        omega
    | true =>
      simp only [count, if_true]
      by_cases h : n.toNat + 1 < 2 ^ 64
      · rw [toNat_increase h]
        omega
      · have hn : n = 18446744073709551615 := by
          have := n.toNat_lt
          rw [← UInt64.toNat_inj]
          simp only [UInt64.reduceToNat]
          omega
        simp [hn, increase]

/-- A mark keeps the difference between the counter and the favorites on show. -/
theorem mark_balance (h : Roomy r) (id : Int64) (v : Bool) :
    Roomy (r.mark id v) ∧
      (r.mark id v).favorites.toNat + r.lit = r.favorites.toNat + (r.mark id v).lit := by
  unfold mark
  split
  · exact ⟨h, rfl⟩
  · rename_i c hc
    split
    · exact ⟨h, rfl⟩
    · rename_i hv
      have hl := countP_setFirst (v := v) (fun c => c.isFavorite) hc
      have hu := countP_setFirst (v := v) (fun c => !c.isFavorite) hc
      obtain ⟨h1, h2⟩ := h
      simp only [lit, unlit] at h1 h2
      cases v with
      | true =>
        have hf : c.isFavorite = false := by simpa using hv
        simp only [hf, Bool.toNat_false, Bool.toNat_true, Bool.not_false, Bool.not_true] at hl hu
        have hn := toNat_increase (n := r.favorites) (by omega)
        refine ⟨⟨?_, ?_⟩, ?_⟩ <;> simp only [lit, unlit, count, if_true, hn] <;> omega
      | false =>
        have hf : c.isFavorite = true := by simpa using hv
        simp only [hf, Bool.toNat_false, Bool.toNat_true, Bool.not_false, Bool.not_true] at hl hu
        have hn := toNat_decrease (n := r.favorites) (by omega)
        refine ⟨⟨?_, ?_⟩, ?_⟩ <;>
          simp only [lit, unlit, count, Bool.false_eq_true, if_false, hn] <;> omega

theorem marks_balance (h : Roomy r) (ms : List (Int64 × Bool)) :
    Roomy (r.marks ms) ∧
      (r.marks ms).favorites.toNat + r.lit = r.favorites.toNat + (r.marks ms).lit := by
  induction ms generalizing r with
  | nil => exact ⟨h, rfl⟩
  | cons m ms ih =>
    obtain ⟨hm, he⟩ := mark_balance h m.1 m.2
    obtain ⟨hr, hf⟩ := ih hm
    refine ⟨hr, ?_⟩
    simp only [marks, List.foldl_cons] at hf ⊢
    omega

theorem flag?_of_mem {c : Companion} (hn : (r.companions.map (·.id)).Nodup)
    (hc : c ∈ r.companions) : r.flag? c.id = some c.isFavorite := by
  simp [flag?, find?, find?_of_nodup _ hn hc]

theorem mem_of_flag? {b : Bool} (h : r.flag? id = some b) :
    ∃ c ∈ r.companions, c.id = id ∧ c.isFavorite = b := by
  obtain ⟨c, hc, hb⟩ := Option.map_eq_some_iff.mp h
  exact ⟨c, List.mem_of_find?_eq_some hc, by simpa using List.find?_some hc, hb⟩

end Roster

namespace Toggle

theorem apply_of_flag {id : Int64} {b : Bool} {r : Roster} (h : r.flag? id = some b) :
    apply id r = some (⟨id, b, .applied⟩, r.mark id !b) := by
  obtain ⟨c, hc, rfl⟩ := Option.map_eq_some_iff.mp h
  simp [apply, hc]

/-- The mark by which a toggle is shown. -/
def asMark (t : Toggle) : Int64 × Bool := (t.id, t.optimistic)

theorem latest?_asMark {ts : List Toggle} {id : Int64} (hn : (ts.map (·.id)).Nodup) :
    Roster.latest? id (ts.map asMark) = (ts.find? fun t => t.id == id).map (·.optimistic) := by
  induction ts with
  | nil => rfl
  | cons t ts ih =>
    simp only [List.map_cons, List.nodup_cons] at hn
    simp only [List.map_cons, Roster.latest?, ih hn.2, asMark]
    by_cases h : t.id = id
    · have hnone : ts.find? (fun t => t.id == id) = none := by
        rw [List.find?_eq_none]
        intro u hu he
        exact hn.1 (by rw [h, ← beq_iff_eq.mp he]; exact List.mem_map_of_mem hu)
      simp [h, hnone]
    · simp [h]

end Toggle

namespace Catalog

/-- Showing the answers and the toggles again is a series of marks. -/
theorem reconcile_eq_marks (confirmed : List (Int64 × Bool)) (pending : List Toggle) (r : Roster) :
    reconcile confirmed pending r = r.marks (confirmed ++ pending.map Toggle.asMark) := by
  simp [reconcile, Roster.marks, List.foldl_append, List.foldl_map, Toggle.overlay, Toggle.asMark]

end Catalog
end Companions
