import Companions.Viewport.Basic
import Mathlib.Data.Rat.Floor
import Mathlib.Tactic.Linarith
import Mathlib.Tactic.Positivity

/-! Lengths as exact rationals, and what becomes of a viewport's indices there. -/
namespace Companions

namespace Exact

variable {a b : Rat}

@[simp] theorem finite_add : (Exact.finite a + .finite b : Exact) = .finite (a + b) := rfl

@[simp] theorem finite_sub : (Exact.finite a - .finite b : Exact) = .finite (a - b) := rfl

@[simp] theorem finite_mul : (Exact.finite a * .finite b : Exact) = .finite (a * b) := rfl

@[simp] theorem finite_div : (Exact.finite a / .finite b : Exact) = .finite (a / b) := rfl

@[simp] theorem zero_eq : (Length.zero : Exact) = .finite 0 := rfl

@[simp] theorem one_eq : (Length.one : Exact) = .finite 1 := rfl

@[simp] theorem ofIndex_eq (n : UInt64) : (Length.ofIndex n : Exact) = .finite n.toNat := rfl

@[simp] theorem lt_finite : Length.lt (Exact.finite a) (.finite b) = decide (a < b) := rfl

@[simp] theorem le_finite : Length.le (Exact.finite a) (.finite b) = decide (a ≤ b) := rfl

@[simp] theorem max_finite :
    Length.max (Exact.finite a) (.finite b) = .finite (max a b) := by
  unfold Length.max
  by_cases h : a < b
  · simp [h, max_eq_right h.le]
  · simp [h, max_eq_left (not_lt.mp h)]

@[simp] theorem min_finite :
    Length.min (Exact.finite a) (.finite b) = .finite (min a b) := by
  unfold Length.min
  by_cases h : b < a
  · simp [h, min_eq_right h.le]
  · simp [h, min_eq_left (not_lt.mp h)]

@[simp] theorem soundExtent_finite :
    Length.soundExtent (Exact.finite a) = .finite (if 1 ≤ a then a else 1) := by
  simp only [Length.soundExtent, Length.isFinite, one_eq, le_finite]
  by_cases h : 1 ≤ a <;> simp [h]

@[simp] theorem soundOffset_finite :
    Length.soundOffset (Exact.finite a) = .finite (max a 0) := by
  simp only [Length.soundOffset, Length.isFinite, zero_eq, lt_finite]
  by_cases h : 0 < a
  · simp [h, max_eq_left h.le]
  · simp [h, max_eq_right (not_lt.mp h)]

/-- The size of an item: at least one. -/
def asExtent : Exact → Rat
  | finite q => max q 1
  | notFinite => 1

/-- A size or an offset: not negative. -/
def asOffset : Exact → Rat
  | finite q => max q 0
  | notFinite => 0

theorem soundExtent_eq (x : Exact) : Length.soundExtent x = .finite x.asExtent := by
  cases x with
  | finite q =>
    rw [soundExtent_finite, asExtent]
    by_cases h : 1 ≤ q
    · rw [if_pos h, max_eq_left h]
    · rw [if_neg h, max_eq_right (not_le.mp h).le]
  | notFinite => rfl

theorem soundOffset_eq (x : Exact) : Length.soundOffset x = .finite x.asOffset := by
  cases x with
  | finite q => exact soundOffset_finite
  | notFinite => rfl

theorem one_le_asExtent (x : Exact) : 1 ≤ x.asExtent := by
  cases x with
  | finite q => exact le_max_right q 1
  | notFinite => exact le_rfl

theorem asExtent_pos (x : Exact) : 0 < x.asExtent := zero_lt_one.trans_le x.one_le_asExtent

theorem asOffset_nonneg (x : Exact) : 0 ≤ x.asOffset := by
  cases x with
  | finite q => exact le_max_right q 0
  | notFinite => exact le_rfl

@[simp] theorem atLeastOne_finite :
    Length.atLeastOne (Exact.finite a) = .finite (if 1 ≤ a then a else 1) := by
  unfold Length.atLeastOne
  by_cases h : 1 ≤ a <;> simp [h]

theorem toNat_clampIndex (n : Int) : (clampIndex n).toNat = min n.toNat (UInt64.size - 1) := by
  unfold clampIndex
  split
  · rename_i h
    simp [Int.toNat_of_nonpos h.le]
  · split
    · rename_i h
      have hn : n.toNat < UInt64.size := by simp only [UInt64.size]; omega
      rw [UInt64.toNat_ofNat_of_lt' hn]
      omega
    · simp only [UInt64.size]
      rw [show UInt64.toNat 18446744073709551615 = 18446744073709551615 from rfl]
      omega

@[simp] theorem toNat_floorIndex :
    (Length.floorIndex (Exact.finite a)).toNat = min ⌊a⌋₊ (UInt64.size - 1) := by
  rw [← Int.floor_toNat]
  exact toNat_clampIndex _

@[simp] theorem toNat_roundIndex_natCast (n : Nat) :
    (Length.roundIndex (Exact.finite n)).toNat = min n (UInt64.size - 1) := by
  have hfloor : ⌊(n : Rat) + 1 / 2⌋ = (n : Int) := by
    rw [Int.floor_eq_iff]
    constructor <;> norm_num
  have h : (Length.roundIndex (Exact.finite n)) = clampIndex ⌊(n : Rat) + 1 / 2⌋ := rfl
  rw [h, hfloor, toNat_clampIndex, Int.toNat_natCast]

end Exact

theorem one_le_toNat {n : UInt64} (h : n ≠ 0) : 1 ≤ n.toNat := by
  rw [Nat.one_le_iff_ne_zero]
  exact fun h0 => h (UInt64.toNat_inj.mp h0)

theorem ofNat_ne_zero {n : Nat} (hpos : 0 < n) (hsize : n < UInt64.size) :
    UInt64.ofNat n ≠ 0 := by
  intro h
  have hn := UInt64.toNat_ofNat_of_lt' hsize
  rw [h, UInt64.toNat_zero] at hn
  omega

theorem toNat_sub_one {n : UInt64} (h : n ≠ 0) : (n - 1).toNat = n.toNat - 1 :=
  UInt64.toNat_sub_of_le n 1 (UInt64.le_iff_toNat_le.mpr (one_le_toNat h))

theorem toNat_indexMin (a b : UInt64) : (Index.min a b).toNat = min a.toNat b.toNat := by
  unfold Index.min
  split <;> simp only [UInt64.lt_iff_toNat_lt] at * <;> omega

theorem toNat_indexMax (a b : UInt64) : (Index.max a b).toNat = max a.toNat b.toNat := by
  unfold Index.max
  split <;> simp only [UInt64.lt_iff_toNat_lt] at * <;> omega

theorem toNat_indexSub (a b : UInt64) : (Index.sub a b).toNat = a.toNat - b.toNat := by
  unfold Index.sub
  split
  · simp only [UInt64.lt_iff_toNat_lt] at *
    simp only [UInt64.toNat_zero]
    omega
  · rename_i h
    rw [UInt64.toNat_sub_of_le]
    simpa using h

theorem toNat_indexAdd (a b : UInt64) :
    (Index.add a b).toNat = min (a.toNat + b.toNat) (UInt64.size - 1) := by
  have ha := a.toNat_lt
  have hb := b.toNat_lt
  have hlimit : Index.limit.toNat = UInt64.size - 1 := rfl
  have hl : (Index.limit - b).toNat = UInt64.size - 1 - b.toNat := by
    rw [UInt64.toNat_sub_of_le, hlimit]
    rw [UInt64.le_iff_toNat_le, hlimit]
    simp only [UInt64.size]
    omega
  unfold Index.add
  split <;> simp only [UInt64.lt_iff_toNat_lt, hl, hlimit, UInt64.toNat_add, UInt64.size] at *
  · omega
  · omega

namespace Viewport

variable {count overscan : UInt64} {extent container scroll : Exact} {e v q : Rat}

/-- The offset lies within the list. -/
theorem floor_offset_le (n : Nat) (he : 0 < e) (hv : 0 ≤ v) :
    ⌊min q (max (n * e - v) 0) / e⌋₊ ≤ n := by
  have hoffset : min q (max (n * e - v) 0) ≤ n * e :=
    (min_le_right _ _).trans (max_le (by linarith) (by positivity))
  have h := Nat.floor_le_floor ((div_le_iff₀ he).mpr hoffset)
  rwa [Nat.floor_natCast] at h

/-- No index is cut off at 64 bits. -/
theorem compute_exact (hc : count ≠ 0) (he : Length.soundExtent extent = .finite e)
    (hv : Length.soundOffset container = .finite v) (hq : Length.soundOffset scroll = .finite q)
    (he1 : 1 ≤ e) (hv0 : 0 ≤ v) :
    let view := compute count extent container overscan scroll
    let offset := min q (max (count.toNat * e - v) 0)
    view.scroll = .finite offset ∧ view.count = count ∧
    view.first.toNat = min (⌊offset / e⌋₊ - overscan.toNat) (count.toNat - 1) ∧
    view.last.toNat = min (⌊(offset + v) / e⌋₊ + overscan.toNat) (count.toNat - 1) := by
  have hcount := one_le_toNat hc
  intro view offset
  have hlt := count.toNat_lt
  have hrow : ⌊offset / e⌋₊ ≤ UInt64.size - 1 := by
    have : ⌊offset / e⌋₊ ≤ count.toNat := floor_offset_le _ (by linarith) hv0
    simp only [UInt64.size]
    omega
  simp only [view, compute, if_neg hc, he, hv, hq, Exact.ofIndex_eq, Exact.finite_mul,
    Exact.finite_sub, Exact.zero_eq, Exact.max_finite, Exact.min_finite, Exact.finite_div,
    Exact.finite_add, toNat_indexMin, toNat_indexSub, toNat_indexAdd, Exact.toNat_floorIndex,
    toNat_sub_one hc, true_and]
  refine ⟨rfl, ?_, ?_⟩
  · rw [min_eq_left hrow]
  · simp only [offset, UInt64.size]
    omega

end Viewport

/-- At the offset `q` the item lies whole between the edges. -/
structure ShowsWhole (extent container : Rat) (index : Nat) (q : Rat) : Prop where
  nonneg : 0 ≤ q
  top : q ≤ index * extent
  bottom : (index + 1) * extent ≤ q + container

namespace Geometry

variable {g : Geometry Exact} {scroll : Exact} {index : UInt64} {e v q : Rat}

theorem intoView_exact (he : Length.soundExtent g.extent = .finite e)
    (hv : Length.soundOffset g.container = .finite v)
    (hq : Length.soundOffset scroll = .finite q) :
    g.intoView index scroll = .finite (
      if index.toNat * e < q then index.toNat * e
      else if q + v < index.toNat * e + e then max (index.toNat * e + e - v) 0
      else q) := by
  simp only [intoView, he, hv, hq, Exact.ofIndex_eq, Exact.finite_mul, Exact.finite_add,
    Exact.finite_sub, Exact.lt_finite, Exact.max_finite, Exact.zero_eq, decide_eq_true_eq]
  split
  · rfl
  · split <;> rfl

/-- An item that has to be scrolled down to ends at the lower edge. -/
theorem intoView_shows (he : Length.soundExtent g.extent = .finite e)
    (hv : Length.soundOffset g.container = .finite v)
    (hq : Length.soundOffset scroll = .finite q) (he0 : 0 ≤ e) (hq0 : 0 ≤ q) (hroom : e ≤ v) :
    ∃ r, g.intoView index scroll = .finite r ∧ ShowsWhole e v index.toNat r ∧
      (q < r → (index.toNat + 1) * e = r + v) := by
  have htop : 0 ≤ index.toNat * e := by positivity
  refine ⟨_, intoView_exact he hv hq, ?_⟩
  split
  · exact ⟨⟨htop, le_rfl, by linarith⟩, fun hlt => by linarith⟩
  · split
    · have hle := le_max_left (index.toNat * e + e - v) 0
      refine ⟨⟨le_max_right _ _, max_le (by linarith) htop, by linarith⟩, fun hlt => ?_⟩
      rcases lt_max_iff.mp hlt with hlt | hlt
      · rw [max_eq_left (by linarith)]
        linarith
      · linarith
    · exact ⟨⟨hq0, by linarith, by linarith⟩, fun hlt => absurd hlt (lt_irrefl _)⟩

end Geometry
end Companions
