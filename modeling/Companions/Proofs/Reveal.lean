import Companions.Proofs.Threshold

/-! Scrolling to an item. The offset is that of the item in a list, so that a list shows the item
whole, but a grid only where this offset does not go past the row that holds it. -/
namespace Companions

/-- The row that holds an item. -/
def Layout.rowOf {α : Type} [Length α] (layout : Layout α) (i : Nat) : Nat :=
  match layout with
  | .list => i
  | .grid g => i / g.perRow.toNat

theorem Layout.rowOf_le {α : Type} [Length α] (layout : Layout α) (i : Nat) :
    layout.rowOf i ≤ i := by
  cases layout with
  | list => exact le_rfl
  | grid g => exact Nat.div_le_self i g.perRow.toNat

/-- An offset that shows an item whole shows an earlier row whole, unless it goes past it. Keeping it
within so many rows draws it back as far as the rows behind fit. -/
theorem ShowsWhole.held_iff {e v r : Rat} {i row rows : Nat} (h : ShowsWhole e v i r) (he : 0 < e)
    (hrow : row ≤ i) (hrows : row < rows) :
    ShowsWhole e v row (min r (max (rows * e - v) 0)) ↔ r ≤ row * e ∨ (rows - row) * e ≤ v := by
  have hbefore : (row + 1 : Rat) * e ≤ (i + 1) * e :=
    mul_le_mul_of_nonneg_right (by exact_mod_cast Nat.succ_le_succ hrow) he.le
  have hwithin : (row + 1 : Rat) * e ≤ rows * e :=
    mul_le_mul_of_nonneg_right (by exact_mod_cast hrows) he.le
  have htop : (0 : Rat) ≤ row * e := by positivity
  constructor
  · intro hshows
    rcases min_le_iff.mp hshows.top with hr | hmost
    · exact .inl hr
    · right
      have := (le_max_left _ _).trans hmost
      linarith
  · intro hor
    refine ⟨le_min h.nonneg (le_max_right _ _), ?_, ?_⟩
    · rcases hor with hr | hfit
      · exact (min_le_left _ _).trans hr
      · exact (min_le_right _ _).trans (max_le (by linarith) htop)
    · have hbottom := h.bottom
      have hmost := le_max_left (rows * e - v) 0
      rw [← sub_le_iff_le_add]
      exact le_min (by linarith) (by linarith)

namespace Surface

variable {s : Surface Exact} {count : UInt64} {snapshot : Snapshot}

theorem windowed_draws_iff (hc : count ≠ 0) (hsmall : count.toNat < 2 ^ 63) {i : Nat} :
    (s.windowed count).Draws i ↔ i < count.toNat ∧
      (s.geometry.compute (s.layout.rows count) s.scroll).Draws (s.layout.rowOf i) := by
  cases hl : s.layout with
  | list =>
    have hwithin : (s.geometry.compute count s.scroll).Within := Viewport.compute_within hc
    have hlast := UInt64.lt_iff_toNat_lt.mp hwithin.bounded
    have hcount : (s.geometry.compute count s.scroll).count = count :=
      Viewport.count_compute ..
    rw [hcount] at hlast
    simp only [windowed, hl, Layout.rows, Layout.rowOf, hwithin.draws_iff]
    omega
  | grid g =>
    simp only [windowed, hl, Layout.rows, Layout.rowOf]
    exact Grid.draws_iff hc hsmall

/-- The view holds the item, and its row lies whole between the edges. -/
structure Shows (s : Surface Exact) (snapshot : Snapshot) (i : Nat) : Prop where
  drawn : (s.viewOf snapshot).viewport.Draws i
  whole : ∃ q, (s.viewOf snapshot).viewport.scroll = .finite q ∧
    ShowsWhole s.geometry.extent.asExtent s.geometry.container.asOffset (s.layout.rowOf i) q

/-- The rows within which the offset is kept; a list that is drawn whole has a row for each
companion. -/
def span (s : Surface Exact) (count : UInt64) : UInt64 :=
  if count ≤ s.threshold then count else s.layout.rows count

theorem rowOf_lt_span {i : Nat} (hi : i < count.toNat) :
    s.layout.rowOf i < (s.span count).toNat := by
  unfold span
  split
  · exact (s.layout.rowOf_le i).trans_lt hi
  · cases s.layout with
    | list => exact hi
    | grid g =>
      rw [Layout.rows, toNat_divUp g.perRow_ne_zero, lt_rows_iff g.perRow_pos]
      exact (Nat.div_mul_le_self i g.perRow.toNat).trans_lt hi

theorem scroll_viewport (hc : count ≠ 0) :
    (s.viewport count).scroll = .finite (Viewport.heldOffset (s.span count).toNat s.geometry.extent
      s.geometry.container s.scroll) := by
  rw [viewport_eq, span]
  split
  · exact (Viewport.compute_held hc).1
  · rw [(s.windowed_bar count).1]
    exact (Viewport.compute_held (s.layout.rows_ne_zero hc)).1

/-- A view that shows a row whole holds its items. -/
theorem draws_of_showsWhole (hc : count ≠ 0) (hsmall : count.toNat < 2 ^ 63) {i : Nat}
    (hi : i < count.toNat)
    (h : ShowsWhole s.geometry.extent.asExtent s.geometry.container.asOffset (s.layout.rowOf i)
      (Viewport.heldOffset (s.span count).toNat s.geometry.extent s.geometry.container s.scroll)) :
    (s.viewport count).Draws i := by
  rw [span] at h
  rw [viewport_eq]
  split
  · have hlast : (s.whole count).last.toNat = count.toNat - 1 := by
      rw [whole, toNat_indexSub, UInt64.toNat_one]
    rw [(s.whole_within hc).draws_iff, hlast]
    exact ⟨Nat.zero_le i, by omega⟩
  · rename_i hlarge
    rw [if_neg hlarge] at h
    rw [windowed_draws_iff hc hsmall]
    refine ⟨hi, Viewport.draws_of_meets (s.layout.rows_ne_zero hc) ?_ ?_⟩
    · have hspan := @rowOf_lt_span s count i hi
      rwa [span, if_neg hlarge] at hspan
    · have he := s.geometry.extent.asExtent_pos
      have htop := h.top
      have hbottom := h.bottom
      refine ⟨s.layout.rowOf i * s.geometry.extent.asExtent, ⟨le_rfl, ?_⟩, htop, ?_⟩
      · linarith
      · linarith

theorem shows_iff (hsmall : snapshot.companions.length < 2 ^ 63) {i : Nat}
    (hi : i < snapshot.companions.length) :
    s.Shows snapshot i ↔
      ShowsWhole s.geometry.extent.asExtent s.geometry.container.asOffset (s.layout.rowOf i)
        (Viewport.heldOffset (s.span (UInt64.ofNat snapshot.companions.length)).toNat
          s.geometry.extent s.geometry.container s.scroll) := by
  have hcount : (UInt64.ofNat snapshot.companions.length).toNat = snapshot.companions.length :=
    UInt64.toNat_ofNat_of_lt' (hsmall.trans (by decide))
  have hc : UInt64.ofNat snapshot.companions.length ≠ 0 :=
    ofNat_ne_zero (Nat.zero_lt_of_lt hi) (hsmall.trans (by decide))
  have hscroll : (s.viewOf snapshot).viewport.scroll = _ := scroll_viewport hc
  constructor
  · rintro ⟨-, q, hq, hwhole⟩
    rw [hscroll, Exact.finite.injEq] at hq
    rwa [hq]
  · intro hwhole
    refine ⟨?_, _, hscroll, hwhole⟩
    exact draws_of_showsWhole hc (by rwa [hcount]) (by rwa [hcount]) hwhole

/-- Revealing an item scrolls to where it stands in a list, so that a list then shows it. A grid
shows it just if that offset is not behind its row, or if its row and all rows behind it fit. -/
theorem revealed_shows (s : Surface Exact) (snapshot : Snapshot) (index : UInt64)
    (hsmall : snapshot.companions.length < 2 ^ 63)
    (hroom : s.geometry.extent.asExtent ≤ s.geometry.container.asOffset)
    (hindex : index.toNat < snapshot.companions.length) :
    let e := s.geometry.extent.asExtent
    let v := s.geometry.container.asOffset
    let row := s.layout.rowOf index.toNat
    let rows := (s.span (UInt64.ofNat snapshot.companions.length)).toNat
    ∃ r, (s.reveal index).scroll = .finite r ∧
      (s.layout = .list → (s.reveal index).Shows snapshot index.toNat) ∧
      ((s.reveal index).Shows snapshot index.toNat ↔ r ≤ row * e ∨ (rows - row) * e ≤ v) := by
  intro e v row rows
  have he := s.geometry.extent.asExtent_pos
  obtain ⟨r, hr, hwhole, -⟩ := @Geometry.intoView_shows s.geometry s.scroll index _ _ _
    (Exact.soundExtent_eq _) (Exact.soundOffset_eq _) (Exact.soundOffset_eq _) he.le
    s.scroll.asOffset_nonneg hroom
  have hscroll : (s.reveal index).scroll = .finite r := hr
  have hoffset : (s.reveal index).scroll.asOffset = r := by
    rw [hscroll]
    exact max_eq_left hwhole.nonneg
  have hcount : (UInt64.ofNat snapshot.companions.length).toNat = snapshot.companions.length :=
    UInt64.toNat_ofNat_of_lt' (hsmall.trans (by decide))
  have hrow : row < rows := rowOf_lt_span (by rwa [hcount])
  have hiff : (s.reveal index).Shows snapshot index.toNat ↔
      r ≤ row * e ∨ (rows - row) * e ≤ v := by
    rw [shows_iff hsmall hindex, Viewport.heldOffset, hoffset]
    exact hwhole.held_iff he (s.layout.rowOf_le _) hrow
  refine ⟨r, hscroll, ?_, hiff⟩
  intro hlist
  have hsame : row = index.toNat := by simp only [row, hlist, Layout.rowOf]
  rw [hiff, hsame]
  exact .inl hwhole.top

/-- The last of two rows of two. -/
theorem revealed_shows_last_row :
    let s := columns 2
    fourCompanions.companions.length < 2 ^ 63 ∧
    s.geometry.extent.asExtent ≤ s.geometry.container.asOffset ∧
    UInt64.toNat 3 < fourCompanions.companions.length ∧
    (s.reveal 3).Shows fourCompanions 3 := by
  intro s
  have hroom : s.geometry.extent.asExtent ≤ s.geometry.container.asOffset := by decide +kernel
  obtain ⟨r, -, -, hiff⟩ := revealed_shows s fourCompanions 3 (by decide) hroom (by decide)
  refine ⟨by decide, hroom, by decide, hiff.mpr (.inr ?_)⟩
  decide +kernel

/-- In the first row the second card is scrolled out of view. -/
theorem revealed_out_of_view :
    let s := columns 2
    s.geometry.extent.asExtent ≤ s.geometry.container.asOffset ∧
    UInt64.toNat 1 < fourCompanions.companions.length ∧
    (s.viewOf fourCompanions).viewport.Draws 1 ∧
    ¬((s.reveal 1).viewOf fourCompanions).viewport.Draws 1 := by
  decide +kernel

end Surface
end Companions
