import Companions.Proofs.Threshold
import Companions.Screen.CompanionList
import Mathlib.Data.Nat.Cast.Order.Field

/-! What stands in the rows of the list when all companions take equally many rows. -/
namespace Companions

/-- Pieces of equal length, laid end to end. -/
theorem getElem?_flatMap_of_length {α β : Type} {f : α → List β} {n : Nat} (hn : 0 < n)
    (xs : List α) (h : ∀ x ∈ xs, (f x).length = n) (i : Nat) :
    (xs.flatMap f)[i]? = xs[i / n]?.bind fun x => (f x)[i % n]? := by
  induction xs generalizing i with
  | nil => simp
  | cons x xs ih =>
    have hx := h x List.mem_cons_self
    rw [List.flatMap_cons]
    by_cases hi : i < n
    · rw [List.getElem?_append_left (by omega), Nat.div_eq_of_lt hi, Nat.mod_eq_of_lt hi]
      rfl
    · obtain ⟨j, rfl⟩ : ∃ j, i = j + n := ⟨i - n, by omega⟩
      rw [List.getElem?_append_right (by omega), hx, Nat.add_sub_cancel,
        ih (fun y hy => h y (List.mem_cons_of_mem x hy)), Nat.add_div_right _ hn,
        Nat.add_mod_right]
      rfl

/-- Numbered items from some number on. -/
theorem filter_zipIdx {α : Type} (xs : List α) {start first : Nat} (h : start ≤ first) :
    (xs.zipIdx start).filter (fun p => first ≤ p.2) = (xs.drop (first - start)).zipIdx first := by
  induction xs generalizing start with
  | nil => simp
  | cons x xs ih =>
    rcases Nat.eq_or_lt_of_le h with rfl | hlt
    · rw [Nat.sub_self, List.drop_zero, List.filter_eq_self]
      rintro ⟨y, i⟩ hy
      simpa using List.le_snd_of_mem_zipIdx hy
    · have hdrop : first - start = first - (start + 1) + 1 := by omega
      have hhead : ¬first ≤ start := by omega
      rw [List.zipIdx_cons, List.filter_cons, if_neg (by simpa using hhead), ih hlt, hdrop,
        List.drop_succ_cons]

namespace App

/-- The index of the companion that the view has at its top. -/
def top {α : Type} [Length α] (a : App α) : Nat :=
  let view := a.surface.viewOf a.snapshot
  (Length.floorIndex (view.viewport.scroll / Length.atLeastOne a.surface.geometry.extent)).toNat

end App

theorem Screen.inView_eq {α : Type} [Length α] {a : App α} {height : Nat}
    (h : (a.surface.viewOf a.snapshot).viewport.first.toNat ≤ a.top) :
    let view := a.surface.viewOf a.snapshot
    Screen.inView a height =
      (((view.visible.drop (a.top - view.viewport.first.toNat)).zipIdx a.top).map
        Prod.swap).take (max 1 (height / Screen.rowsPerItem a.surface.geometry.extent)) := by
  intro view
  have hnumbered : (view.visible.zipIdx.map fun p => (view.viewport.first.toNat + p.2, p.1)) =
      (view.visible.zipIdx view.viewport.first.toNat).map Prod.swap := by
    conv_rhs => rw [List.zipIdx_eq_map_add]
    rw [List.map_map]
    rfl
  change ((view.visible.zipIdx.map fun p => (view.viewport.first.toNat + p.2, p.1)).filter
    fun p => a.top ≤ p.1).take (max 1 (height / rowsPerItem a.surface.geometry.extent)) = _
  rw [hnumbered, List.filter_map]
  exact congrArg
    (fun l => (l.map Prod.swap).take (max 1 (height / rowsPerItem a.surface.geometry.extent)))
    (filter_zipIdx view.visible h)

namespace App

/-- A list of companions that take so many rows each, with nothing before it. -/
structure Lists (a : App Exact) (rows : Nat) : Prop where
  extent : a.surface.geometry.extent = .finite rows
  pos : 1 ≤ rows
  layout : a.surface.layout = .list
  nonempty : a.snapshot.companions ≠ []
  count : a.snapshot.companions.length < UInt64.size
  help : a.helpShown = false

/-- It has been drawn, and knows the height that it has. -/
structure Framed (a : App Exact) (rows height : Nat) : Prop extends a.Lists rows where
  container : a.surface.geometry.container = .finite height

namespace Framed

variable {a : App Exact} {rows height : Nat}

theorem soundExtent (h : a.Framed rows height) :
    Length.soundExtent a.surface.geometry.extent = .finite rows := by
  have := h.pos
  rw [h.extent, Exact.soundExtent_finite, if_pos (by exact_mod_cast this)]

theorem soundContainer (h : a.Framed rows height) :
    Length.soundOffset a.surface.geometry.container = .finite height := by
  rw [h.container, Exact.soundOffset_finite, max_eq_left (by positivity)]

theorem length_pos (h : a.Framed rows height) : 0 < a.snapshot.companions.length :=
  List.length_pos_iff.mpr h.nonempty

theorem toNat_count (h : a.Framed rows height) :
    (UInt64.ofNat a.snapshot.companions.length).toNat = a.snapshot.companions.length :=
  UInt64.toNat_ofNat_of_lt' h.count

/-- The view reaches from the companion at its top to the one at its bottom, whether or not the
list is drawn whole. -/
theorem viewport (h : a.Framed rows height) {q : Rat}
    (hq : Length.soundOffset a.surface.scroll = .finite q) :
    let n := a.snapshot.companions.length
    let offset := min q (max (n * rows - height : Rat) 0)
    let view := (a.surface.viewOf a.snapshot).viewport
    view.scroll = .finite offset ∧ view.count.toNat = n ∧
    view.first.toNat ≤ ⌊offset / rows⌋₊ ∧
    min ⌊(offset + height) / rows⌋₊ (n - 1) ≤ view.last.toNat ∧ view.last.toNat ≤ n - 1 := by
  intro n offset view
  have hn := h.length_pos
  have hcount := h.toNat_count
  have hzero : UInt64.ofNat n ≠ 0 := ofNat_ne_zero hn h.count
  have hrows : (1 : Rat) ≤ rows := by exact_mod_cast h.pos
  obtain ⟨hscroll, hc, hfirst, hlast⟩ :=
    @Viewport.compute_exact (UInt64.ofNat n) a.surface.geometry.overscan _ _ _ _ _ _ hzero
      h.soundExtent h.soundContainer hq hrows (by positivity)
  rw [hcount] at hscroll hfirst hlast
  have hview : view = if UInt64.ofNat n ≤ a.surface.threshold then a.surface.whole (UInt64.ofNat n)
      else a.surface.geometry.compute (UInt64.ofNat n) a.surface.scroll := by
    simp only [view, Surface.viewOf, Surface.viewport, h.layout]
    rfl
  rw [hview]
  split
  · have hlast : (Index.sub (UInt64.ofNat n) 1).toNat = n - 1 := by
      rw [toNat_indexSub, hcount]
      rfl
    refine ⟨hscroll, ?_, ?_, ?_, ?_⟩
    · exact (congrArg UInt64.toNat hc).trans hcount
    · exact Nat.zero_le _
    · exact (min_le_right _ _).trans hlast.ge
    · exact hlast.le
  · refine ⟨hscroll, ?_, ?_, ?_, ?_⟩
    · exact (congrArg UInt64.toNat hc).trans hcount
    · exact hfirst.le.trans ((min_le_left _ _).trans (Nat.sub_le _ _))
    · rw [Geometry.compute, hlast]
      exact min_le_min_right _ (Nat.le_add_right _ _)
    · rw [Geometry.compute, hlast]
      exact min_le_right _ _

theorem top_eq (h : a.Framed rows height) {q : Rat}
    (hq : Length.soundOffset a.surface.scroll = .finite q) :
    a.top = ⌊min q (max (a.snapshot.companions.length * rows - height : Rat) 0) / rows⌋₊ := by
  have hrows : (1 : Rat) ≤ rows := by exact_mod_cast h.pos
  have hn := h.count
  have hfloor := @Viewport.floor_offset_le rows height q a.snapshot.companions.length
    (by linarith) (by positivity)
  unfold top
  dsimp only
  rw [(h.viewport hq).1, h.extent, Exact.atLeastOne_finite, if_pos hrows, Exact.finite_div,
    Exact.toNat_floorIndex, min_eq_left (by omega)]

theorem rowsPerItem (h : a.Framed rows height) :
    Screen.rowsPerItem a.surface.geometry.extent = min rows (UInt64.size - 1) := by
  have := h.pos
  rw [Screen.rowsPerItem, h.extent, Exact.toNat_roundIndex_natCast]
  simp only [UInt64.size]
  omega

theorem within (h : a.Framed rows height) : (a.surface.viewOf a.snapshot).viewport.Within := by
  have hc := ofNat_ne_zero h.length_pos h.count
  change (a.surface.viewport _).Within
  rw [Surface.viewport_eq]
  split
  · exact a.surface.whole_within hc
  · rw [Surface.windowed, h.layout]
    exact Viewport.compute_within hc

theorem visible (h : a.Framed rows height) :
    let view := (a.surface.viewOf a.snapshot).viewport
    (a.surface.viewOf a.snapshot).visible =
      (a.snapshot.companions.drop view.first.toNat).take
        (view.last.toNat + 1 - view.first.toNat) :=
  h.within.slice_eq a.snapshot.companions

/-- The companions from the one at the top on, as many as there is room for. -/
theorem getElem?_inView (h : a.Framed rows height) (hrows : rows ≤ height)
    (hheight : height < UInt64.size) (k : Nat) :
    (Screen.inView a height)[k]? =
      if k < height / rows then a.snapshot.companions[a.top + k]?.map fun c => (a.top + k, c)
      else none := by
  obtain ⟨q, hq0, hq⟩ : ∃ q, 0 ≤ q ∧ Length.soundOffset a.surface.scroll = .finite q :=
    ⟨_, a.surface.scroll.asOffset_nonneg, Exact.soundOffset_eq _⟩
  obtain ⟨-, hcount, hfirst, hlast, hbound⟩ := h.viewport hq
  have htop := h.top_eq hq
  have hn := h.length_pos
  have hsize := h.count
  -- the window reaches down to the last companion that there is room for
  have hreach : a.top + height / rows ≤
      ⌊(min q (max (a.snapshot.companions.length * rows - height : Rat) 0) + height) / rows⌋₊ := by
    rw [htop]
    apply Nat.le_floor
    push_cast
    rw [add_div]
    refine add_le_add (Nat.floor_le (by positivity)) Nat.cast_div_le
  rw [Screen.inView_eq (by omega), h.rowsPerItem, h.visible, List.getElem?_take]
  have hfits : max 1 (height / min rows (UInt64.size - 1)) = height / rows := by
    rw [min_eq_left (by omega), max_eq_right ((Nat.one_le_div_iff h.pos).mpr hrows)]
  rw [hfits]
  split
  · rename_i hk
    rw [List.getElem?_map, List.getElem?_zipIdx, List.getElem?_drop, List.getElem?_take]
    split
    · rw [List.getElem?_drop, Option.map_map]
      rw [← Nat.add_assoc, Nat.add_sub_cancel' (by omega)]
      rfl
    · rw [List.getElem?_eq_none (by omega)]
      rfl
  · rfl

end Framed
end App

namespace Screen

/-- The rows of one companion, with blank ones below. -/
def itemRows (now : Moment) (c : Companion) (selected : Bool) (rows width : Nat) :
    List (List Span) :=
  let lines := rowsOf now c selected rows width
  lines ++ List.replicate (rows - lines.length) []

variable {now : Moment} {c : Companion} {selected : Bool} {rows width : Nat}

theorem length_itemRows (hrows : 1 ≤ rows) :
    (itemRows now c selected rows width).length = rows := by
  unfold itemRows rowsOf
  split <;> simp <;> omega

/-- Only the name of the selected companion stands on a ground of its own, in its first row. -/
theorem background_of_mem_itemRows {l : Nat} {spans : List Span} {s : Span}
    (h : (itemRows now c selected rows width)[l]? = some spans) (hs : s ∈ spans)
    (hl : ¬(selected = true ∧ l = 0)) : s.pen.background = none := by
  cases l with
  | zero =>
    obtain rfl : selected = false := by simpa using hl
    obtain rfl : summary now c false width = spans := by simpa [itemRows, rowsOf] using h
    revert hs
    unfold summary
    dsimp only
    grind
  | succ l =>
    have hmem : spans = detail c width ∨ spans = [] := by
      rw [itemRows, rowsOf, List.cons_append, List.getElem?_cons_succ] at h
      rcases List.mem_append.mp (List.mem_of_getElem? h) with h | h
      · left
        split at h
        · exact List.mem_singleton.mp h
        · cases h
      · exact Or.inr (List.eq_of_mem_replicate h)
    rcases hmem with rfl | rfl
    · rw [List.mem_singleton.mp hs]
    · cases hs

variable {a : App Exact} {inner : Area}

theorem listRows_of_lt (h : a.Framed rows inner.height) (hrows : inner.height < rows)
    (hheight : inner.height < UInt64.size - 1) : listRows now a inner = [] := by
  have hfits : inner.height < min rows (UInt64.size - 1) := by omega
  simp only [listRows]
  rw [if_neg (by simpa using h.nonempty), h.rowsPerItem, if_pos hfits]

theorem getElem?_listRows (h : a.Framed rows inner.height) (hrows : rows ≤ inner.height)
    (hheight : inner.height < UInt64.size) (i : Nat) :
    (listRows now a inner)[i]? =
      if i / rows < inner.height / rows then
        a.snapshot.companions[a.top + i / rows]?.bind fun c =>
          (itemRows now c (a.top + i / rows = a.selected) rows inner.width)[i % rows]?
      else none := by
  have hitem : rowsPerItem a.surface.geometry.extent = rows := by
    rw [h.rowsPerItem, min_eq_left (by omega)]
  have hlist : listRows now a inner = (inView a inner.height).flatMap fun p =>
      itemRows now p.2 (p.1 = a.selected) rows inner.width := by
    simp [listRows, h.nonempty, hitem, Nat.not_lt.mpr hrows, itemRows]
  rw [hlist, getElem?_flatMap_of_length h.pos _ fun _ _ => length_itemRows h.pos,
    h.getElem?_inView hrows hheight]
  split
  · cases a.snapshot.companions[a.top + i / rows]? <;> rfl
  · rfl

end Screen
end Companions
