import Companions.Proofs.ListWindow
import Mathlib.Algebra.Order.Floor.Div
import Mathlib.Order.Bounds.Basic

/-! The window of a grid. It is the window of the rows, item by item, and no index leaves its 64 bits
while it is computed. -/
namespace Companions

theorem quotient_lt_of_rest {a b : Nat} (hb : 0 < b) (h : a % b ≠ 0) : a / b < a := by
  have hsum := Nat.div_add_mod a b
  have hle := Nat.le_mul_of_pos_left (a / b) hb
  omega

theorem toNat_divUp {a b : UInt64} (hb : b ≠ 0) :
    (Index.divUp a b).toNat = a.toNat ⌈/⌉ b.toNat := by
  have hpos : 0 < b.toNat := one_le_toNat hb
  have hlt := a.toNat_lt
  have hrest : a % b = 0 ↔ a.toNat % b.toNat = 0 := by
    rw [← UInt64.toNat_inj, UInt64.toNat_mod, UInt64.toNat_zero]
  apply eq_of_forall_ge_iff
  intro c
  rw [ceilDiv_le_iff_le_mul hpos]
  unfold Index.divUp
  by_cases h : a.toNat % b.toNat = 0
  · rw [if_pos (hrest.mpr h), UInt64.toNat_div]
    have hmul := Nat.mul_div_cancel' (Nat.dvd_of_mod_eq_zero h)
    constructor
    · intro hle
      rw [← hmul]
      exact Nat.mul_le_mul_left b.toNat hle
    · exact Nat.div_le_of_le_mul
  · have hquotient := quotient_lt_of_rest hpos h
    have hadd : (a / b + 1).toNat = a.toNat / b.toNat + 1 := by
      rw [UInt64.toNat_add, UInt64.toNat_div, UInt64.toNat_one]
      exact Nat.mod_eq_of_lt (Nat.lt_of_le_of_lt hquotient hlt)
    rw [if_neg (mt hrest.mp h), hadd, Nat.add_one_le_iff, Nat.div_lt_iff_lt_mul hpos,
      Nat.mul_comm c]
    constructor
    · exact le_of_lt
    · intro hle
      apply lt_of_le_of_ne hle
      intro heq
      exact h (by rw [heq, Nat.mul_mod_right])

section Rows

variable {count p row : Nat}

theorem lt_rows_iff (hp : 0 < p) : row < count ⌈/⌉ p ↔ row * p < count := by
  rw [← not_le, ceilDiv_le_iff_le_mul hp, not_le, Nat.mul_comm]

/-- The product that gives the end of a row. -/
theorem next_row_lt_size (hp : 0 < p) (hsize : p < UInt64.size) (hcount : count < 2 ^ 63)
    (h : row < count ⌈/⌉ p) : (row + 1) * p < UInt64.size := by
  rw [lt_rows_iff hp] at h
  rw [Nat.add_mul, Nat.one_mul]
  -- a later row is no longer than the list, and twice that still fits
  rcases Nat.eq_zero_or_pos row with rfl | hrow
  · rwa [Nat.zero_mul, Nat.zero_add]
  · have hle := Nat.le_mul_of_pos_left p hrow
    simp only [UInt64.size]
    omega

end Rows

namespace Grid

section Cards

variable (grid : Grid Exact)

/-- So many cards stand side by side in the width, with the gaps between them. -/
def Fits (n : Nat) : Prop :=
  n * grid.card.asExtent + (n - 1) * grid.gap.asOffset ≤ grid.width.asOffset

theorem card_add_gap_pos : 0 < grid.card.asExtent + grid.gap.asOffset :=
  add_pos_of_pos_of_nonneg grid.card.asExtent_pos grid.gap.asOffset_nonneg

/-- With one gap more, each card comes with a gap. -/
theorem fits_iff_le_floor (n : Nat) :
    grid.Fits n ↔ n ≤ ⌊(grid.width.asOffset + grid.gap.asOffset) /
      (grid.card.asExtent + grid.gap.asOffset)⌋₊ := by
  have hnonneg : 0 ≤ (grid.width.asOffset + grid.gap.asOffset) /
      (grid.card.asExtent + grid.gap.asOffset) :=
    div_nonneg (add_nonneg grid.width.asOffset_nonneg grid.gap.asOffset_nonneg)
      grid.card_add_gap_pos.le
  rw [Nat.le_floor_iff hnonneg, le_div_iff₀ grid.card_add_gap_pos, Fits]
  constructor
  · intro h
    linarith
  · intro h
    linarith

theorem isGreatest_fitting :
    IsGreatest {n | 1 ≤ n ∧ (grid.Fits n ∨ n = 1)}
      (max ⌊(grid.width.asOffset + grid.gap.asOffset) /
        (grid.card.asExtent + grid.gap.asOffset)⌋₊ 1) := by
  constructor
  · refine ⟨le_max_right _ _, ?_⟩
    rw [fits_iff_le_floor]
    omega
  · rintro n ⟨-, hn | rfl⟩
    · exact le_max_of_le_left ((grid.fits_iff_le_floor n).mp hn)
    · exact le_max_right _ _

theorem toNat_perRow :
    grid.perRow.toNat = min (max ⌊(grid.width.asOffset + grid.gap.asOffset) /
      (grid.card.asExtent + grid.gap.asOffset)⌋₊ 1) (UInt64.size - 1) := by
  simp only [perRow, Exact.soundOffset_eq, Exact.soundExtent_eq, Exact.finite_add,
    Exact.finite_div, toNat_indexMax, Exact.toNat_floorIndex, UInt64.toNat_one, UInt64.size]
  omega

end Cards

variable {α : Type} [Length α]

/-- The window of the rows. -/
def rows (grid : Grid α) (count : UInt64) (extent container : α) (overscan : UInt64)
    (scroll : α) : Viewport α :=
  Viewport.compute (Index.divUp count grid.perRow) extent container overscan scroll

theorem perRow_ne_zero (grid : Grid α) : grid.perRow ≠ 0 := by
  intro h
  have hmax : grid.perRow.toNat = max _ (UInt64.toNat 1) := toNat_indexMax _ _
  rw [h, UInt64.toNat_zero, UInt64.toNat_one] at hmax
  omega

theorem perRow_pos (grid : Grid α) : 0 < grid.perRow.toNat := one_le_toNat grid.perRow_ne_zero

theorem divUp_ne_zero (grid : Grid α) {count : UInt64} (hc : count ≠ 0) :
    Index.divUp count grid.perRow ≠ 0 := by
  intro h
  have hrows : (Index.divUp count grid.perRow).toNat = count.toNat ⌈/⌉ grid.perRow.toNat :=
    toNat_divUp grid.perRow_ne_zero
  have hpos : 0 < count.toNat ⌈/⌉ grid.perRow.toNat := by
    rw [lt_rows_iff grid.perRow_pos, Nat.zero_mul]
    exact one_le_toNat hc
  rw [h, UInt64.toNat_zero] at hrows
  omega

section Items

variable {grid : Grid Exact} {count overscan : UInt64} {extent container scroll : Exact}

theorem rows_within (hc : count ≠ 0) :
    (grid.rows count extent container overscan scroll).Within :=
  Viewport.compute_within (grid.divUp_ne_zero hc)

theorem last_rows_lt (hc : count ≠ 0) :
    (grid.rows count extent container overscan scroll).last.toNat <
      count.toNat ⌈/⌉ grid.perRow.toNat := by
  have hwithin := @rows_within grid count overscan extent container scroll hc
  obtain ⟨-, hcount, -, -⟩ :=
    @Viewport.compute_held _ overscan extent container scroll (grid.divUp_ne_zero hc)
  have hlast := UInt64.lt_iff_toNat_lt.mp hwithin.bounded
  rwa [rows, hcount, toNat_divUp grid.perRow_ne_zero] at hlast

theorem first_rows_lt (hc : count ≠ 0) :
    (grid.rows count extent container overscan scroll).first.toNat * grid.perRow.toNat <
      count.toNat := by
  have hwithin := @rows_within grid count overscan extent container scroll hc
  have hordered := UInt64.le_iff_toNat_le.mp hwithin.ordered
  exact (lt_rows_iff grid.perRow_pos).mp (hordered.trans_lt (last_rows_lt hc))

theorem compute_eq (hc : count ≠ 0) :
    let rows := grid.rows count extent container overscan scroll
    grid.compute count extent container overscan scroll =
      { rows with
        first := Index.min (rows.first * grid.perRow) (count - 1)
        last := Index.min ((rows.last + 1) * grid.perRow - 1) (count - 1)
        count := count } :=
  if_neg hc

/-- The first row starts within the list. -/
theorem toNat_first (hc : count ≠ 0) :
    (grid.compute count extent container overscan scroll).first.toNat =
      (grid.rows count extent container overscan scroll).first.toNat * grid.perRow.toNat := by
  have hstart := @first_rows_lt grid count overscan extent container scroll hc
  rw [compute_eq hc, toNat_indexMin, UInt64.toNat_mul, toNat_sub_one hc,
    Nat.mod_eq_of_lt (hstart.trans count.toNat_lt)]
  omega

theorem toNat_last (hc : count ≠ 0) (hsmall : count.toNat < 2 ^ 63) :
    let rows := grid.rows count extent container overscan scroll
    (grid.compute count extent container overscan scroll).last.toNat =
      min ((rows.last.toNat + 1) * grid.perRow.toNat - 1) (count.toNat - 1) := by
  intro rows
  have hwithin : rows.Within := rows_within hc
  have hstop := next_row_lt_size grid.perRow_pos grid.perRow.toNat_lt hsmall
    (@last_rows_lt grid count overscan extent container scroll hc)
  have hmul : ((rows.last + 1) * grid.perRow).toNat =
      (rows.last.toNat + 1) * grid.perRow.toNat := by
    rw [UInt64.toNat_mul, hwithin.toNat_next]
    exact Nat.mod_eq_of_lt hstop
  have hone : (rows.last + 1) * grid.perRow ≠ 0 := by
    rw [← UInt64.toNat_inj.ne, hmul]
    exact (Nat.mul_pos (Nat.succ_pos _) grid.perRow_pos).ne'
  rw [compute_eq hc, toNat_indexMin, toNat_sub_one hone, hmul, toNat_sub_one hc]

theorem compute_within (hc : count ≠ 0) (hsmall : count.toNat < 2 ^ 63) :
    (grid.compute count extent container overscan scroll).Within := by
  have hwithin := @rows_within grid count overscan extent container scroll hc
  have hstart := @first_rows_lt grid count overscan extent container scroll hc
  have hmul := Nat.mul_le_mul_right grid.perRow.toNat (UInt64.le_iff_toNat_le.mp hwithin.ordered)
  have hpos := grid.perRow_pos
  constructor
  · rw [UInt64.le_iff_toNat_le, toNat_first hc, toNat_last hc hsmall, Nat.add_mul, Nat.one_mul]
    omega
  · have hcount : (grid.compute count extent container overscan scroll).count = count := by
      rw [compute_eq hc]
    have := one_le_toNat hc
    rw [UInt64.lt_iff_toNat_lt, toNat_last hc hsmall, hcount]
    omega

theorem draws_iff (hc : count ≠ 0) (hsmall : count.toNat < 2 ^ 63) {i : Nat} :
    (grid.compute count extent container overscan scroll).Draws i ↔
      i < count.toNat ∧
        (grid.rows count extent container overscan scroll).Draws (i / grid.perRow.toNat) := by
  have hpos := grid.perRow_pos
  have hcount := one_le_toNat hc
  have hstop : 1 ≤ ((grid.rows count extent container overscan scroll).last.toNat + 1) *
      grid.perRow.toNat :=
    Nat.mul_pos (Nat.succ_pos _) hpos
  have hbefore (row : Nat) : i / grid.perRow.toNat ≤ row ↔ i < (row + 1) * grid.perRow.toNat := by
    rw [← Nat.lt_succ_iff, Nat.div_lt_iff_lt_mul hpos]
  rw [(compute_within hc hsmall).draws_iff, (rows_within hc).draws_iff, toNat_first hc,
    toNat_last hc hsmall, Nat.le_div_iff_mul_le hpos, hbefore]
  omega

/-- What is added, subtracted and multiplied on the way to the window of a grid, besides the sums
that stop at the limit. -/
structure IndicesFit (count perRow : UInt64) (rows view : Viewport Exact) : Prop where
  roundedUp : count.toNat / perRow.toNat + 1 < UInt64.size
  lastItem : 1 ≤ count.toNat
  lastRow : 1 ≤ rows.count.toNat
  start : rows.first.toNat * perRow.toNat < UInt64.size
  nextRow : rows.last.toNat + 1 < UInt64.size
  stop : (rows.last.toNat + 1) * perRow.toNat < UInt64.size
  stop_pos : 1 ≤ (rows.last.toNat + 1) * perRow.toNat
  next : view.last.toNat + 1 < UInt64.size

theorem indicesFit (hc : count ≠ 0) (hsmall : count.toNat < 2 ^ 63) :
    IndicesFit count grid.perRow (grid.rows count extent container overscan scroll)
      (grid.compute count extent container overscan scroll) where
  roundedUp := by
    have := Nat.div_le_self count.toNat grid.perRow.toNat
    simp only [UInt64.size]
    omega
  lastItem := one_le_toNat hc
  lastRow := one_le_toNat (rows_within hc).count_ne_zero
  start := (first_rows_lt hc).trans count.toNat_lt
  nextRow := (rows_within hc).toNat_next ▸ UInt64.toNat_lt _
  stop := next_row_lt_size grid.perRow_pos grid.perRow.toNat_lt hsmall (last_rows_lt hc)
  stop_pos := Nat.mul_pos (Nat.succ_pos _) grid.perRow_pos
  next := (compute_within hc hsmall).toNat_next ▸ UInt64.toNat_lt _

end Items

/-- A grid shows what the window of its rows holds, each row with all its items. Its rows hold as
many cards as fit, and no index leaves its 64 bits. -/
theorem compute_expands_rows (grid : Grid Exact) (count overscan : UInt64)
    (extent container scroll : Exact) (hc : count ≠ 0) (hsmall : count.toNat < 2 ^ 63) :
    let p := grid.perRow
    let rows := Viewport.compute (Index.divUp count p) extent container overscan scroll
    let view := grid.compute count extent container overscan scroll
    (Index.divUp count p).toNat = count.toNat ⌈/⌉ p.toNat ∧
    view.scroll = rows.scroll ∧ view.total = rows.total ∧ view.paint = rows.paint ∧
    (∀ i, view.Draws i ↔ i < count.toNat ∧ rows.Draws (i / p.toNat)) ∧
    p.toNat ∣ view.first.toNat ∧
    (p.toNat ∣ view.last.toNat + 1 ∨ view.last.toNat + 1 = count.toNat) ∧
    IndicesFit count p rows view ∧
    ∃ most, IsGreatest {n | 1 ≤ n ∧ (grid.Fits n ∨ n = 1)} most ∧
      p.toNat = min most (UInt64.size - 1) := by
  intro p rows view
  have hview : view = _ := compute_eq hc
  have hend : view.last.toNat = min ((rows.last.toNat + 1) * p.toNat - 1) (count.toNat - 1) :=
    toNat_last hc hsmall
  have hfit : IndicesFit count p rows view := indicesFit hc hsmall
  refine ⟨toNat_divUp grid.perRow_ne_zero, ?_, ?_, ?_, fun i => draws_iff hc hsmall, ?_, ?_, hfit,
    _, grid.isGreatest_fitting, grid.toNat_perRow⟩
  · rw [hview]
    rfl
  · rw [hview]
    rfl
  · rw [hview]
    rfl
  · exact Dvd.intro_left _ (toNat_first hc).symm
  · have hstop := hfit.stop_pos
    have hcount := hfit.lastItem
    rcases Nat.le_total ((rows.last.toNat + 1) * p.toNat) count.toNat with h | h
    · left
      refine Dvd.intro_left (rows.last.toNat + 1) ?_
      omega
    · right
      omega

/-- The last of 26 rows of four has three items. -/
theorem compute_expands_rows_to_end :
    let grid : Grid Exact := ⟨.finite 848, .finite 200, .finite 16⟩
    let view := grid.compute 103 (.finite 280) (.finite 600) 0 (.finite 1000000)
    (103 : UInt64) ≠ 0 ∧ UInt64.toNat 103 < 2 ^ 63 ∧ grid.perRow = 4 ∧
    view.Draws 92 ∧ ¬view.Draws 91 ∧ view.Draws 102 ∧ ¬view.Draws 103 := by
  intro grid view
  obtain ⟨-, -, -, -, hdraws, -⟩ := compute_expands_rows grid 103 0 (.finite 280) (.finite 600)
    (.finite 1000000) (by decide) (by decide)
  refine ⟨by decide, by decide, by decide +kernel, ?_, ?_, ?_, ?_⟩
  · exact (hdraws 92).mpr (by decide +kernel)
  · exact mt (hdraws 91).mp (by decide +kernel)
  · exact (hdraws 102).mpr (by decide +kernel)
  · exact mt (hdraws 103).mp (by decide +kernel)

end Grid
end Companions
