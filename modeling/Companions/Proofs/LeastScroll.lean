import Companions.Proofs.ExactLength
import Companions.Surface

/-! Scrolling to an item, once and again. In a container that has room for the item the offset goes
to the nearest one that shows it whole, and stays there. An item higher than its container is never
shown whole, and each call goes to the end of the item that the call before has left. -/
namespace Companions

section Interval

variable {low high s q : Rat}

/-- The offset held between two others is nearer than any other between them. -/
theorem abs_held_sub_lt (hlow : low ≤ q) (hhigh : q ≤ high) (hne : q ≠ max (min s high) low) :
    |max (min s high) low - s| < |q - s| := by
  rcases le_total s low with hs | hs
  · rw [min_eq_left (hs.trans (hlow.trans hhigh)), max_eq_right hs] at hne ⊢
    have hlt : low < q := lt_of_le_of_ne hlow hne.symm
    rw [abs_of_nonneg (by linarith), abs_of_nonneg (by linarith)]
    linarith
  · rcases le_total s high with hs' | hs'
    · rw [min_eq_left hs', max_eq_left hs] at hne ⊢
      rw [sub_self, abs_zero]
      exact abs_pos.mpr (sub_ne_zero.mpr hne)
    · rw [min_eq_right hs', max_eq_left (hlow.trans hhigh)] at hne ⊢
      have hlt : q < high := lt_of_le_of_ne hhigh hne
      rw [abs_of_nonpos (by linarith), abs_of_nonpos (by linarith)]
      linarith

end Interval

theorem Exact.asOffset_finite {q : Rat} (h : 0 ≤ q) : (Exact.finite q).asOffset = q := max_eq_left h

/-- An item is shown whole from where its end comes into view to where its beginning leaves it. -/
theorem showsWhole_iff {e v q : Rat} {i : Nat} :
    ShowsWhole e v i q ↔ max ((i + 1) * e - v) 0 ≤ q ∧ q ≤ i * e := by
  constructor
  · rintro ⟨hnonneg, htop, hbottom⟩
    exact ⟨max_le (by linarith) hnonneg, htop⟩
  · rintro ⟨hlow, htop⟩
    obtain ⟨hbottom, hnonneg⟩ := max_le_iff.mp hlow
    exact ⟨hnonneg, htop, by linarith⟩

namespace Geometry

variable {g : Geometry Exact} {index : UInt64}

/-- The offset at which an item begins with its container. -/
def topAligned (g : Geometry Exact) (index : UInt64) : Rat := index.toNat * g.extent.asExtent

/-- The offset at which an item ends with its container. -/
def bottomAligned (g : Geometry Exact) (index : UInt64) : Rat :=
  (index.toNat + 1) * g.extent.asExtent - g.container.asOffset

theorem topAligned_nonneg : 0 ≤ g.topAligned index := by
  have he := g.extent.asExtent_pos
  unfold topAligned
  positivity

theorem aligned_of_room (hroom : g.extent.asExtent ≤ g.container.asOffset) (index : UInt64) :
    max (g.bottomAligned index) 0 ≤ g.topAligned index := by
  apply max_le _ topAligned_nonneg
  unfold bottomAligned topAligned
  linarith

theorem aligned_of_excess (hexcess : g.container.asOffset < g.extent.asExtent)
    (index : UInt64) :
    g.topAligned index < g.bottomAligned index := by
  unfold bottomAligned topAligned
  linarith

theorem intoView_eq (scroll : Exact) : g.intoView index scroll = .finite (
    if g.topAligned index < scroll.asOffset then g.topAligned index
    else if scroll.asOffset < g.bottomAligned index then max (g.bottomAligned index) 0
    else scroll.asOffset) := by
  have hend : g.topAligned index + g.extent.asExtent - g.container.asOffset =
      g.bottomAligned index := by
    unfold topAligned bottomAligned
    ring
  have hbelow : scroll.asOffset + g.container.asOffset < g.topAligned index + g.extent.asExtent ↔
      scroll.asOffset < g.bottomAligned index := by
    rw [← hend]
    constructor <;> intro h <;> linarith
  rw [intoView_exact (Exact.soundExtent_eq _) (Exact.soundOffset_eq _) (Exact.soundOffset_eq _),
    ← topAligned]
  simp only [hbelow, hend]

/-- With room for the item the offset is held where the item is shown whole. -/
theorem intoView_of_room (hroom : g.extent.asExtent ≤ g.container.asOffset) (index : UInt64)
    (scroll : Exact) : g.intoView index scroll =
      .finite (max (min scroll.asOffset (g.topAligned index)) (max (g.bottomAligned index) 0)) := by
  rw [intoView_eq]
  split
  · rename_i hpast
    rw [min_eq_right hpast.le, max_eq_left (aligned_of_room hroom index)]
  · rename_i htop
    rw [min_eq_left (not_lt.mp htop)]
    split
    · rename_i hbefore
      rw [max_eq_right (hbefore.le.trans (le_max_left _ _))]
    · rename_i hbottom
      rw [max_eq_left (max_le (not_lt.mp hbottom) scroll.asOffset_nonneg)]

/-- Without, it is put at one end of the item. -/
theorem intoView_of_excess (hexcess : g.container.asOffset < g.extent.asExtent) (scroll : Exact) :
    g.intoView index scroll = .finite (
      if g.topAligned index < scroll.asOffset then g.topAligned index
      else g.bottomAligned index) := by
  have hlt := aligned_of_excess hexcess index
  rw [intoView_eq]
  split
  · rfl
  · rename_i htop
    rw [if_pos ((not_lt.mp htop).trans_lt hlt), max_eq_left (topAligned_nonneg.trans hlt.le)]

theorem intoView_intoView_of_room (hroom : g.extent.asExtent ≤ g.container.asOffset)
    (scroll : Exact) : g.intoView index (g.intoView index scroll) = g.intoView index scroll := by
  obtain ⟨r, hr, hlow, hhigh⟩ : ∃ r, g.intoView index scroll = .finite r ∧
      max (g.bottomAligned index) 0 ≤ r ∧ r ≤ g.topAligned index :=
    ⟨_, intoView_of_room hroom index scroll, le_max_right _ _,
      max_le (min_le_right _ _) (aligned_of_room hroom index)⟩
  have hnonneg : 0 ≤ r := (le_max_right _ _).trans hlow
  rw [hr, intoView_of_room hroom, Exact.asOffset_finite hnonneg, min_eq_left hhigh,
    max_eq_left hlow]

/-- Each end leads to the other. -/
theorem intoView_aligned (hexcess : g.container.asOffset < g.extent.asExtent) (index : UInt64) :
    g.intoView index (.finite (g.topAligned index)) = .finite (g.bottomAligned index) ∧
      g.intoView index (.finite (g.bottomAligned index)) = .finite (g.topAligned index) := by
  have hlt := aligned_of_excess hexcess index
  have hnonneg : 0 ≤ g.bottomAligned index := topAligned_nonneg.trans hlt.le
  constructor
  · rw [intoView_of_excess hexcess, Exact.asOffset_finite topAligned_nonneg, if_neg (lt_irrefl _)]
  · rw [intoView_of_excess hexcess, Exact.asOffset_finite hnonneg, if_pos hlt]

theorem intoView_alternates (hexcess : g.container.asOffset < g.extent.asExtent)
    (scroll : Exact) :
    g.intoView index (g.intoView index scroll) ≠ g.intoView index scroll ∧
      g.intoView index (g.intoView index (g.intoView index scroll)) = g.intoView index scroll := by
  have hne := (aligned_of_excess hexcess index).ne
  obtain ⟨htop, hbottom⟩ := intoView_aligned hexcess index
  have hends : g.intoView index scroll = .finite (g.topAligned index) ∨
      g.intoView index scroll = .finite (g.bottomAligned index) := by
    rw [intoView_of_excess hexcess]
    split
    · exact .inl rfl
    · exact .inr rfl
  rcases hends with h | h
  · rw [h, htop, hbottom]
    exact ⟨fun heq => hne (Exact.finite.inj heq).symm, rfl⟩
  · rw [h, hbottom, htop]
    exact ⟨fun heq => hne (Exact.finite.inj heq), rfl⟩

theorem intoView_thrice (g : Geometry Exact) (index : UInt64) (scroll : Exact) :
    g.intoView index (g.intoView index (g.intoView index scroll)) = g.intoView index scroll := by
  rcases le_or_gt g.extent.asExtent g.container.asOffset with hroom | hexcess
  · rw [intoView_intoView_of_room hroom, intoView_intoView_of_room hroom]
  · exact (intoView_alternates hexcess scroll).2

end Geometry

theorem Surface.reveal_reveal_eq_iff {s : Surface Exact} {index : UInt64} :
    (s.reveal index).reveal index = s.reveal index ↔
      s.geometry.intoView index (s.geometry.intoView index s.scroll) =
        s.geometry.intoView index s.scroll := by
  simp [reveal]

namespace Geometry

/-- Scrolling to an item once more changes nothing exactly if the container has room for it. If not,
all further calls go to and fro between the first two offsets. -/
theorem intoView_settles_iff (g : Geometry Exact) (index : UInt64) (scroll : Exact) :
    let call := g.intoView index
    (call (call scroll) = call scroll ↔ g.extent.asExtent ≤ g.container.asOffset) ∧
    (∀ n, call^[n + 1] scroll = if Even n then call scroll else call (call scroll)) ∧
    ∀ s : Surface Exact,
      let t : Surface Exact := { s with geometry := g, scroll }
      (t.reveal index).reveal index = t.reveal index ↔
        g.extent.asExtent ≤ g.container.asOffset := by
  intro call
  have hiff : call (call scroll) = call scroll ↔ g.extent.asExtent ≤ g.container.asOffset := by
    constructor
    · intro hsame
      by_contra hexcess
      exact (intoView_alternates (not_le.mp hexcess) scroll).1 hsame
    · exact fun hroom => intoView_intoView_of_room hroom scroll
  refine ⟨hiff, fun n => ?_, fun s => Surface.reveal_reveal_eq_iff.trans hiff⟩
  -- A third call repeats the first, so that only the parity of their number matters.
  induction n with
  | zero => rfl
  | succ n ih =>
    rw [Function.iterate_succ_apply', ih]
    by_cases hn : Even n
    · rw [if_pos hn, if_neg (Nat.even_add_one.not.mpr (not_not.mpr hn))]
    · rw [if_neg hn, if_pos (Nat.even_add_one.mpr hn)]
      exact intoView_thrice g index scroll

/-- An item of ten rows in a container of five. -/
theorem intoView_unsettled :
    let g : Geometry Exact := ⟨.finite 10, .finite 5, 0⟩
    g.intoView 1 (.finite 0) = .finite 15 ∧
      g.intoView 1 (g.intoView 1 (.finite 0)) = .finite 10 ∧
      g.intoView 1 (g.intoView 1 (.finite 0)) ≠ g.intoView 1 (.finite 0) := by
  intro g
  have he : g.extent.asExtent = 10 := by norm_num [g, Exact.asExtent]
  have hv : g.container.asOffset = 5 := by norm_num [g, Exact.asOffset]
  have hindex : UInt64.toNat 1 = 1 := rfl
  have htop : g.topAligned 1 = 10 := by norm_num [topAligned, he, hindex]
  have hbottom : g.bottomAligned 1 = 15 := by norm_num [bottomAligned, he, hv, hindex]
  have hexcess : g.container.asOffset < g.extent.asExtent := by norm_num [he, hv]
  have honce : g.intoView 1 (.finite 0) = .finite 15 := by
    rw [intoView_of_excess hexcess, htop, hbottom, if_neg]
    norm_num [Exact.asOffset]
  have hback := (intoView_aligned hexcess 1).2
  rw [htop, hbottom] at hback
  rw [honce, hback]
  exact ⟨rfl, rfl, by norm_num⟩

/-- With room for an item there is one offset nearest to the given one that shows it whole. -/
theorem intoView_nearest (g : Geometry Exact) (index : UInt64) (scroll : Rat)
    (hroom : g.extent.asExtent ≤ g.container.asOffset) (hscroll : 0 ≤ scroll) :
    ∃ r, g.intoView index (.finite scroll) = .finite r ∧
      ShowsWhole g.extent.asExtent g.container.asOffset index.toNat r ∧
      ∀ q, ShowsWhole g.extent.asExtent g.container.asOffset index.toNat q → q ≠ r →
        |r - scroll| < |q - scroll| := by
  have hr := intoView_of_room hroom index (.finite scroll)
  rw [Exact.asOffset_finite hscroll] at hr
  refine ⟨_, hr, ?_, fun q hq hne => ?_⟩
  · rw [showsWhole_iff]
    exact ⟨le_max_right _ _, max_le (min_le_right _ _) (aligned_of_room hroom index)⟩
  · obtain ⟨hlow, hhigh⟩ := showsWhole_iff.mp hq
    exact abs_held_sub_lt hlow hhigh hne

/-- From above the item, with an offset that is no whole number. -/
theorem intoView_nearest_below :
    let g : Geometry Exact := ⟨.finite (5 / 2), .finite 6, 0⟩
    g.extent.asExtent ≤ g.container.asOffset ∧ (0 : Rat) ≤ 3 ∧
    g.intoView 7 (.finite 3) = .finite 14 ∧
    ShowsWhole g.extent.asExtent g.container.asOffset 7 14 ∧
    ∀ q, ShowsWhole g.extent.asExtent g.container.asOffset 7 q → q ≠ 14 → |14 - 3| < |q - 3| := by
  intro g
  have he : g.extent.asExtent = 5 / 2 := by norm_num [g, Exact.asExtent]
  have hv : g.container.asOffset = 6 := by norm_num [g, Exact.asOffset]
  have hroom : g.extent.asExtent ≤ g.container.asOffset := by norm_num [he, hv]
  have hindex : UInt64.toNat 7 = 7 := rfl
  have htop : g.topAligned 7 = 35 / 2 := by norm_num [topAligned, he, hindex]
  have hbottom : g.bottomAligned 7 = 14 := by norm_num [bottomAligned, he, hv, hindex]
  have hscroll : (0 : Rat) ≤ 3 := by norm_num
  have hr : g.intoView 7 (.finite 3) = .finite 14 := by
    rw [intoView_of_room hroom, Exact.asOffset_finite hscroll, htop, hbottom]
    norm_num
  obtain ⟨r, hcall, hshows, hnearest⟩ := intoView_nearest g 7 3 hroom hscroll
  obtain rfl : r = 14 := Exact.finite.inj (hcall.symm.trans hr)
  exact ⟨hroom, hscroll, hr, hshows, hnearest⟩

end Geometry
end Companions
