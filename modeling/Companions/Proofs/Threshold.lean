import Companions.Proofs.GridWindow
import Companions.Surface

/-! Lists that are drawn whole because they are short. For them the view has the offset and the size
of a list in every layout, so that in a grid with several cards on a row these change at the
threshold. -/
namespace Companions

/-- A scroll bar beside them looks the same. -/
structure Viewport.SameBar {α : Type} (v w : Viewport α) : Prop where
  scroll : v.scroll = w.scroll
  total : v.total = w.total
  count : v.count = w.count

theorem Viewport.SameBar.trans {α : Type} {u v w : Viewport α} (h : u.SameBar v) (h' : v.SameBar w) :
    u.SameBar w :=
  ⟨h.scroll.trans h'.scroll, h.total.trans h'.total, h.count.trans h'.count⟩

theorem Viewport.SameBar.symm {α : Type} {v w : Viewport α} (h : v.SameBar w) : w.SameBar v :=
  ⟨h.scroll.symm, h.total.symm, h.count.symm⟩

variable {α : Type} [Length α]

theorem ceilDiv_eq_self_iff {n p : Nat} (hp : 0 < p) : n ⌈/⌉ p = n ↔ p = 1 ∨ n ≤ 1 := by
  constructor
  · intro h
    by_contra hne
    have hle : n ⌈/⌉ p ≤ n - 1 := by
      rw [ceilDiv_le_iff_le_mul hp]
      have hmul := Nat.mul_le_mul_right (n - 1) (by omega : 2 ≤ p)
      omega
    omega
  · rintro (rfl | h)
    · exact ceilDiv_one n
    · apply le_antisymm
      · rw [ceilDiv_le_iff_le_mul hp]
        exact Nat.le_mul_of_pos_left n hp
      · rcases Nat.le_one_iff_eq_zero_or_eq_one.mp h with rfl | rfl
        · exact Nat.zero_le _
        · rw [Nat.one_le_iff_ne_zero, ← Nat.pos_iff_ne_zero, lt_rows_iff hp]
          omega

namespace Layout

/-- The rows that so many items take. -/
def rows (layout : Layout α) (count : UInt64) : UInt64 :=
  match layout with
  | .list => count
  | .grid g => Index.divUp count g.perRow

/-- Every item has a row of its own. -/
def RowEach (layout : Layout α) (count : UInt64) : Prop :=
  ∀ g, layout = .grid g → g.perRow = 1 ∨ count ≤ 1

theorem rows_eq_iff (layout : Layout α) (count : UInt64) :
    layout.rows count = count ↔ layout.RowEach count := by
  cases layout with
  | list =>
    constructor
    · intro _ g h
      cases h
    · exact fun _ => rfl
  | grid g =>
    have hone : g.perRow = 1 ↔ g.perRow.toNat = 1 := UInt64.toNat_inj.symm
    have hsmall : count ≤ 1 ↔ count.toNat ≤ 1 := UInt64.le_iff_toNat_le
    rw [rows, ← UInt64.toNat_inj, toNat_divUp g.perRow_ne_zero, ceilDiv_eq_self_iff g.perRow_pos,
      ← hone, ← hsmall]
    constructor
    · rintro h _ ⟨⟩
      exact h
    · exact fun h => h g rfl

theorem rows_ne_zero (layout : Layout α) {count : UInt64} (hc : count ≠ 0) :
    layout.rows count ≠ 0 := by
  cases layout with
  | list => exact hc
  | grid g => exact g.divUp_ne_zero hc

end Layout

theorem Viewport.count_compute (count overscan : UInt64) (extent container scroll : α) :
    (compute count extent container overscan scroll).count = count := by
  unfold compute
  split
  · rename_i h
    exact h.symm
  · rfl

namespace Surface

/-- The window of the layout, in which the threshold has no part. -/
def windowed (count : UInt64) (s : Surface α) : Viewport α :=
  match s.layout with
  | .list => s.geometry.compute count s.scroll
  | .grid grid =>
    grid.compute count s.geometry.extent s.geometry.container s.geometry.overscan s.scroll

theorem viewport_eq (count : UInt64) (s : Surface α) :
    s.viewport count = if count ≤ s.threshold then s.whole count else s.windowed count := rfl

/-- The rows are scrolled like the items of a list. -/
theorem windowed_bar (count : UInt64) (s : Surface α) :
    let list := s.geometry.compute (s.layout.rows count) s.scroll
    (s.windowed count).scroll = list.scroll ∧ (s.windowed count).total = list.total ∧
      (s.windowed count).count = count := by
  intro list
  cases hl : s.layout with
  | list => simp [list, windowed, hl, Layout.rows, Geometry.compute, Viewport.count_compute]
  | grid grid =>
    by_cases hc : count = 0
    · subst hc
      have hzero : Index.divUp 0 grid.perRow = 0 := by simp [Index.divUp]
      simp [list, windowed, hl, Layout.rows, Geometry.compute, Grid.compute, Viewport.compute, hzero,
        Viewport.empty]
    · simp [list, windowed, hl, Layout.rows, Geometry.compute, Grid.compute, hc]

theorem count_viewport (count : UInt64) (s : Surface α) : (s.viewport count).count = count := by
  rw [viewport_eq]
  split
  · exact Viewport.count_compute ..
  · exact (s.windowed_bar count).2.2

theorem whole_sameBar_of_rowEach {count : UInt64} {s : Surface α} (h : s.layout.RowEach count) :
    (s.whole count).SameBar (s.windowed count) := by
  obtain ⟨hscroll, htotal, hcount⟩ := s.windowed_bar count
  rw [(s.layout.rows_eq_iff count).mpr h] at hscroll htotal
  exact ⟨hscroll.symm, htotal.symm, (Viewport.count_compute ..).trans hcount.symm⟩

/-- The sizes tell the numbers of rows apart. -/
theorem rowEach_of_whole_sameBar {count : UInt64} {s : Surface Exact}
    (h : (s.whole count).SameBar (s.windowed count)) : s.layout.RowEach count := by
  by_cases hc : count = 0
  · intro grid _
    right
    rw [hc]
    decide
  obtain ⟨-, htotal, -⟩ := s.windowed_bar count
  have hsame : (s.geometry.compute count s.scroll).total =
      (s.geometry.compute (s.layout.rows count) s.scroll).total :=
    h.total.trans htotal
  rw [Geometry.compute, Viewport.total_compute hc, Geometry.compute,
    Viewport.total_compute (s.layout.rows_ne_zero hc), Exact.finite.injEq] at hsame
  have hrows : count.toNat = (s.layout.rows count).toNat := by
    exact_mod_cast mul_right_cancel₀ s.geometry.extent.asExtent_pos.ne' hsame
  exact (s.layout.rows_eq_iff count).mp (UInt64.toNat_inj.mp hrows).symm

theorem whole_within {count : UInt64} (hc : count ≠ 0) (s : Surface α) :
    (s.whole count).Within where
  ordered := UInt64.zero_le
  bounded := by
    have hcount : (s.whole count).count = count := Viewport.count_compute ..
    have hpos := one_le_toNat hc
    rw [UInt64.lt_iff_toNat_lt, hcount, whole, toNat_indexSub, UInt64.toNat_one]
    omega

theorem slice_whole (s : Surface α) {β : Type} {items : List β}
    (h : items.length < UInt64.size) : (s.whole (UInt64.ofNat items.length)).slice items = items := by
  have hlength : (UInt64.ofNat items.length).toNat = items.length := UInt64.toNat_ofNat_of_lt' h
  by_cases hc : UInt64.ofNat items.length = 0
  · have hnil : items = [] := by
      rw [hc] at hlength
      exact List.eq_nil_of_length_eq_zero hlength.symm
    rw [hnil, Viewport.slice, List.drop_nil, List.take_nil]
  · have hwithin := s.whole_within hc
    have hpos := one_le_toNat hc
    have hlast : (s.whole (UInt64.ofNat items.length)).last.toNat = items.length - 1 := by
      rw [whole, toNat_indexSub, hlength, UInt64.toNat_one]
    have hfirst : (s.whole (UInt64.ofNat items.length)).first.toNat = 0 := rfl
    rw [hwithin.slice_eq, hfirst, hlast, List.drop_zero]
    apply List.take_of_length_le
    omega

/-- Whole or not, the threshold has no other part in the view. -/
theorem viewport_viewOf (s : Surface α) (snapshot : Snapshot) (t : UInt64) :
    let count := UInt64.ofNat snapshot.companions.length
    (({ s with threshold := t } : Surface α).viewOf snapshot).viewport =
      if count ≤ t then s.whole count else s.windowed count :=
  rfl

theorem visible_isInfix (s : Surface α) (snapshot : Snapshot) :
    (s.viewOf snapshot).visible <:+: snapshot.companions :=
  (List.take_prefix _ _).isInfix.trans (List.drop_suffix _ _).isInfix

/-- With a row for each item the bar is that of the layout for any kind of numbers, and so the same
whatever the threshold. The companions of a short list are all in the view, and any other view has a
stretch of them. For exact numbers a list that is drawn whole in several columns has not the bar of
its layout. -/
theorem bar_at_any_threshold (snapshot : Snapshot)
    (hsize : snapshot.companions.length < UInt64.size) :
    let count := UInt64.ofNat snapshot.companions.length
    (∀ (α : Type) [Length α] (s : Surface α) (t u : UInt64),
      let view (t : UInt64) := ({ s with threshold := t } : Surface α).viewOf snapshot
      (view t).viewport.count = count ∧
      ((count ≤ t → s.layout.RowEach count) → (view t).viewport.SameBar (s.windowed count)) ∧
      (s.layout.RowEach count → (view t).viewport.SameBar (view u).viewport) ∧
      (count ≤ t → (view t).visible = snapshot.companions) ∧
      (view u).visible <:+: snapshot.companions) ∧
    ∀ (s : Surface Exact) (t : UInt64),
      (({ s with threshold := t } : Surface Exact).viewOf snapshot).viewport.SameBar
          (s.windowed count) →
        count ≤ t → s.layout.RowEach count := by
  intro count
  constructor
  · intro α _ s t u view
    have hbar (t : UInt64) (h : count ≤ t → s.layout.RowEach count) :
        (view t).viewport.SameBar (s.windowed count) := by
      change (if count ≤ t then s.whole count else s.windowed count).SameBar _
      split
      · rename_i hle
        exact whole_sameBar_of_rowEach (h hle)
      · exact ⟨rfl, rfl, rfl⟩
    refine ⟨count_viewport count _, hbar t, ?_, ?_, visible_isInfix _ snapshot⟩
    · intro h
      exact (hbar t fun _ => h).trans (hbar u fun _ => h).symm
    · intro hle
      change (if count ≤ t then s.whole count else s.windowed count).slice _ = _
      rw [if_pos hle]
      exact slice_whole s hsize
  · intro s t h hle
    rw [viewport_viewOf, if_pos hle] at h
    exact rowEach_of_whole_sameBar h

end Surface

def fourCompanions : Snapshot where
  roster :=
    { companions :=
      [{ id := 1, name := "Ann" }, { id := 2, name := "Bob" }, { id := 3, name := "Cleo" },
        { id := 4, name := "Dan" }] }

/-- Cards in so many columns, of which one row is in view. -/
def columns (n : Nat) : Surface Exact where
  geometry := { extent := .finite 1, container := .finite 1, overscan := 0 }
  layout := .grid ⟨.finite n, .finite 1, .finite 0⟩
  scroll := .finite 0
  threshold := 0
  debouncer := { quiet := 0 }

namespace Surface

theorem bar_at_any_threshold_one_column :
    let view (t : UInt64) := ({ columns 1 with threshold := t } : Surface Exact).viewOf fourCompanions
    fourCompanions.companions.length < UInt64.size ∧ (columns 1).layout.RowEach 4 ∧
    (view 4).viewport.SameBar (view 3).viewport ∧
    (view 4).visible = fourCompanions.companions ∧
    (view 3).visible <:+: fourCompanions.companions := by
  intro view
  have heach : (columns 1).layout.RowEach 4 := by
    rintro _ ⟨⟩
    left
    decide +kernel
  obtain ⟨-, -, hsame, hall, hpart⟩ :=
    (bar_at_any_threshold fourCompanions (by decide)).1 Exact (columns 1) 4 3
  exact ⟨by decide, heach, hsame heach, hall (by decide), hpart⟩

/-- Scrolled past the end of two rows of two, where it matters whether they are a list of four. -/
theorem bar_moves_at_threshold :
    let view (t : UInt64) :=
      (({ columns 2 with scroll := .finite 3, threshold := t } : Surface Exact).viewOf
        fourCompanions).viewport
    (view 4).scroll = .finite 3 ∧ (view 3).scroll = .finite 1 ∧
    (view 4).total = .finite 4 ∧ (view 3).total = .finite 2 := by
  decide +kernel

end Surface
end Companions
