import Companions.Proofs.ExactLength
import Mathlib.Order.Interval.Set.Basic

/-! The window of a list. It holds every item that meets the visible interval and few more, and it
ends with the list once the offset is as large as it can be. -/
namespace Companions

namespace Viewport

section Range

variable {α : Type} {view : Viewport α}

/-- The item belongs to the range. -/
def Draws (view : Viewport α) (i : Nat) : Prop :=
  view.range.1.toNat ≤ i ∧ i < view.range.2.toNat

instance (view : Viewport α) (i : Nat) : Decidable (view.Draws i) :=
  inferInstanceAs (Decidable (_ ∧ _))

/-- The range of a list that is not empty. -/
structure Within (view : Viewport α) : Prop where
  ordered : view.first ≤ view.last
  bounded : view.last < view.count

theorem Within.count_ne_zero (h : view.Within) : view.count ≠ 0 := by
  intro h0
  have hb := h.bounded
  rw [h0] at hb
  exact UInt64.not_lt_zero hb

theorem Within.range_eq (h : view.Within) : view.range = (view.first, view.last + 1) := by
  have hne : view.isEmpty = false := by simpa [isEmpty] using h.count_ne_zero
  simp [range, hne]

theorem Within.toNat_next (h : view.Within) : (view.last + 1).toNat = view.last.toNat + 1 := by
  have hlast := UInt64.lt_iff_toNat_lt.mp h.bounded
  have hcount := view.count.toNat_lt
  rw [UInt64.toNat_add, UInt64.toNat_one]
  omega

theorem Within.draws_iff (h : view.Within) {i : Nat} :
    view.Draws i ↔ view.first.toNat ≤ i ∧ i ≤ view.last.toNat := by
  rw [Draws, h.range_eq, h.toNat_next, Nat.lt_succ_iff]

theorem Within.toNat_size (h : view.Within) :
    view.size.toNat = view.last.toNat + 1 - view.first.toNat := by
  rw [size, h.range_eq, toNat_indexSub, h.toNat_next]

theorem Within.slice_eq (h : view.Within) {β : Type} (items : List β) :
    view.slice items =
      (items.drop view.first.toNat).take (view.last.toNat + 1 - view.first.toNat) := by
  rw [slice, h.toNat_size, h.range_eq]

end Range

section Floors

variable {e v q : Rat} {i : Nat}

theorem floor_le_of_meets (he : 0 < e) (hq : 0 ≤ q)
    (h : (Set.Ico (i * e) ((i + 1) * e) ∩ Set.Icc q (q + v)).Nonempty) :
    ⌊q / e⌋₊ ≤ i ∧ i ≤ ⌊(q + v) / e⌋₊ := by
  obtain ⟨x, ⟨hfrom, hto⟩, hlow, hhigh⟩ := h
  constructor
  · have hlt : q / e < (i + 1 : Nat) := by
      rw [div_lt_iff₀ he]
      push_cast
      exact hlow.trans_lt hto
    have := (Nat.floor_lt (div_nonneg hq he.le)).mpr hlt
    omega
  · apply Nat.le_floor
    rw [le_div_iff₀ he]
    exact hfrom.trans hhigh

theorem floor_div_add_le (he : 0 < e) (hq : 0 ≤ q) (hv : 0 ≤ v) :
    ⌊(q + v) / e⌋₊ ≤ ⌊q / e⌋₊ + ⌊v / e⌋₊ + 1 := by
  have hq1 := Nat.lt_floor_add_one (q / e)
  have hv1 := Nat.lt_floor_add_one (v / e)
  have hlt : (q + v) / e < (⌊q / e⌋₊ + ⌊v / e⌋₊ + 2 : Nat) := by
    rw [add_div]
    push_cast
    linarith
  have := (Nat.floor_lt (div_nonneg (add_nonneg hq hv) he.le)).mpr hlt
  omega

end Floors

/-- The offset at which a list is drawn: it lies within the list. -/
def heldOffset (count : Nat) (extent container scroll : Exact) : Rat :=
  min scroll.asOffset (max (count * extent.asExtent - container.asOffset) 0)

theorem heldOffset_nonneg (count : Nat) (extent container scroll : Exact) :
    0 ≤ heldOffset count extent container scroll :=
  le_min scroll.asOffset_nonneg (le_max_right _ _)

variable {count overscan : UInt64} {extent container scroll : Exact}

theorem compute_held (hc : count ≠ 0) :
    let view := compute count extent container overscan scroll
    let q := heldOffset count.toNat extent container scroll
    view.scroll = .finite q ∧ view.count = count ∧
    view.first.toNat = min (⌊q / extent.asExtent⌋₊ - overscan.toNat) (count.toNat - 1) ∧
    view.last.toNat =
      min (⌊(q + container.asOffset) / extent.asExtent⌋₊ + overscan.toNat) (count.toNat - 1) :=
  compute_exact hc (Exact.soundExtent_eq _) (Exact.soundOffset_eq _) (Exact.soundOffset_eq _)
    (Exact.one_le_asExtent _) (Exact.asOffset_nonneg _)

theorem total_compute (hc : count ≠ 0) :
    (compute count extent container overscan scroll).total =
      .finite (count.toNat * extent.asExtent) := by
  simp only [compute, if_neg hc, Exact.soundExtent_eq, Exact.ofIndex_eq, Exact.finite_mul]

theorem maxScroll_eq :
    maxScroll count extent container =
      .finite (max (count.toNat * extent.asExtent - container.asOffset) 0) := by
  simp only [maxScroll, Exact.soundExtent_eq, Exact.soundOffset_eq, Exact.ofIndex_eq,
    Exact.finite_mul, Exact.finite_sub, Exact.zero_eq, Exact.max_finite]

theorem compute_within (hc : count ≠ 0) :
    (compute count extent container overscan scroll).Within := by
  obtain ⟨-, hcount, hfirst, hlast⟩ :=
    @compute_held count overscan extent container scroll hc
  have hpos := one_le_toNat hc
  constructor
  · have hfloor : ⌊heldOffset count.toNat extent container scroll / extent.asExtent⌋₊ ≤
        ⌊(heldOffset count.toNat extent container scroll + container.asOffset) /
          extent.asExtent⌋₊ := by
      apply Nat.floor_le_floor
      apply div_le_div_of_nonneg_right _ extent.asExtent_pos.le
      exact le_add_of_nonneg_right container.asOffset_nonneg
    rw [UInt64.le_iff_toNat_le, hfirst, hlast]
    omega
  · rw [UInt64.lt_iff_toNat_lt, hlast, hcount]
    omega

theorem draws_of_meets (hc : count ≠ 0) {i : Nat} (hi : i < count.toNat)
    (h : (Set.Ico (i * extent.asExtent) ((i + 1) * extent.asExtent) ∩
      Set.Icc (heldOffset count.toNat extent container scroll)
        (heldOffset count.toNat extent container scroll + container.asOffset)).Nonempty) :
    (compute count extent container overscan scroll).Draws i := by
  obtain ⟨-, -, hfirst, hlast⟩ := @compute_held count overscan extent container scroll hc
  obtain ⟨hlow, hhigh⟩ := floor_le_of_meets extent.asExtent_pos (heldOffset_nonneg _ _ _ _) h
  rw [(compute_within hc).draws_iff, hfirst, hlast]
  omega

theorem size_compute_le (hc : count ≠ 0) :
    (compute count extent container overscan scroll).size.toNat ≤
      ⌊container.asOffset / extent.asExtent⌋₊ + 2 + 2 * overscan.toNat := by
  obtain ⟨-, -, hfirst, hlast⟩ := @compute_held count overscan extent container scroll hc
  have hfloor := floor_div_add_le extent.asExtent_pos
    (heldOffset_nonneg count.toNat extent container scroll) container.asOffset_nonneg
  rw [(compute_within hc).toNat_size, hfirst, hlast]
  -- what the overscan cannot reach at either end of the list only makes the range shorter
  omega

/-- There the lower edge lies at the end of the list, or behind it. -/
theorem last_compute_of_most_le (hc : count ≠ 0)
    (h : max (count.toNat * extent.asExtent - container.asOffset) 0 ≤ scroll.asOffset) :
    (compute count extent container overscan scroll).last = count - 1 := by
  obtain ⟨-, -, -, hlast⟩ := @compute_held count overscan extent container scroll hc
  have hedge : count.toNat * extent.asExtent ≤
      heldOffset count.toNat extent container scroll + container.asOffset := by
    rw [heldOffset, min_eq_right h]
    have := le_max_left (count.toNat * extent.asExtent - container.asOffset) 0
    linarith
  have hend : count.toNat ≤
      ⌊(heldOffset count.toNat extent container scroll + container.asOffset) /
        extent.asExtent⌋₊ :=
    Nat.le_floor ((le_div_iff₀ extent.asExtent_pos).mpr hedge)
  apply UInt64.toNat_inj.mp
  rw [hlast, toNat_sub_one hc]
  omega

/-- At its offset, the window of a list that is not empty lies within the list and holds every item
that meets the visible interval. It has at most two items more than fit into the interval, and the
overscan at both ends. From the largest offset on it ends with the list. -/
theorem compute_covers_visible (count overscan : UInt64) (extent container scroll : Exact)
    (hc : count ≠ 0) :
    let view := compute count extent container overscan scroll
    let e := extent.asExtent
    let v := container.asOffset
    let most := max (count.toNat * e - v) 0
    let q := min scroll.asOffset most
    view.scroll = .finite q ∧ maxScroll count extent container = .finite most ∧
    view.first ≤ view.last ∧ view.last < count ∧
    (∀ i < count.toNat, (Set.Ico (i * e) ((i + 1) * e) ∩ Set.Icc q (q + v)).Nonempty →
      view.first.toNat ≤ i ∧ i ≤ view.last.toNat) ∧
    view.size.toNat = view.last.toNat + 1 - view.first.toNat ∧
    view.size.toNat ≤ ⌊v / e⌋₊ + 2 + 2 * overscan.toNat ∧
    (most ≤ scroll.asOffset → view.last = count - 1) := by
  intro view e v most q
  obtain ⟨hscroll, hcount, -, -⟩ := @compute_held count overscan extent container scroll hc
  have hwithin : view.Within := compute_within hc
  refine ⟨hscroll, maxScroll_eq, hwithin.ordered, ?_, ?_, hwithin.toNat_size,
    size_compute_le hc, last_compute_of_most_le hc⟩
  · exact hcount ▸ hwithin.bounded
  · intro i hi hmeets
    exact hwithin.draws_iff.mp (draws_of_meets hc hi hmeets)

/-- Scrolled too far, in a container that is no multiple of the items. -/
theorem compute_covers_visible_past_end :
    let view := compute 100 (Exact.finite 10) (.finite 55) 1 (.finite 5000)
    (100 : UInt64) ≠ 0 ∧ view.scroll = .finite 945 ∧ view.last = 99 ∧
    view.first.toNat ≤ 94 ∧ view.size.toNat ≤ 9 := by
  intro view
  obtain ⟨hscroll, -, -, -, hcovers, -, hsize, hlast⟩ :=
    compute_covers_visible 100 1 (.finite 10) (.finite 55) (.finite 5000) (by decide)
  have hmeets : (94 : Nat) * (10 : Rat) ≤ 945 ∧ (945 : Rat) < ((94 : Nat) + 1) * 10 := by norm_num
  refine ⟨by decide, ?_, ?_, ?_, ?_⟩
  · rw [hscroll]
    decide +kernel
  · exact hlast (by decide +kernel)
  · exact (hcovers 94 (by decide) ⟨945, hmeets, by decide +kernel, by decide +kernel⟩).1
  · exact hsize.trans (by decide +kernel)

end Viewport
end Companions
