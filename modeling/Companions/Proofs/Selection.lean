import Companions.Proofs.Keys
import Companions.Proofs.SelectedRow

/-! The selection always designates a companion of the list on the screen, and the sums by which it
moves keep within 64 bits. A list comes with its number: another number starts the list anew, and
the same number with as many companions leaves selection and scroll offset as they are. -/
namespace Companions

/-- A list that is so many rows high has no more rows on a page, as each is at least one high. -/
def Length.PagesWithin (α : Type) [Length α] : Prop :=
  ∀ (rows : Nat) (extent : α), rows < 2 ^ 16 →
    (floorIndex (ofIndex (UInt64.ofNat rows) / atLeastOne extent)).toNat ≤ rows

theorem Exact.pagesWithin : Length.PagesWithin Exact := by
  intro rows extent hrows
  obtain ⟨e, he, hone⟩ : ∃ e : Rat, Length.atLeastOne extent = .finite e ∧ 1 ≤ e := by
    cases extent with
    | finite q =>
      rw [atLeastOne_finite]
      by_cases hq : 1 ≤ q
      · exact ⟨q, by rw [if_pos hq], hq⟩
      · exact ⟨1, by rw [if_neg hq], le_rfl⟩
    | notFinite => exact ⟨1, rfl, le_rfl⟩
  have hcount : (UInt64.ofNat rows).toNat = rows :=
    UInt64.toNat_ofNat_of_lt' (hrows.trans (by decide))
  have hfloor : ⌊(rows : Rat) / e⌋₊ ≤ rows :=
    (Nat.floor_le_floor (div_le_self (Nat.cast_nonneg rows) hone)).trans (Nat.floor_natCast rows).le
  rw [he, ofIndex_eq, finite_div, toNat_floorIndex, hcount]
  exact (Nat.min_le_left _ _).trans hfloor

namespace App

variable {α : Type} {a b : App α} {d : Int}

/-- Each number in a move, and the sum, has its exact value as a word of 64 bits with sign. -/
structure MovesExactly (a : App α) (d : Int) : Prop where
  stride : (Int64.ofInt d).toInt = d
  selected : (Int64.ofNat a.selected).toInt = a.selected
  sum : (Int64.ofNat a.selected + Int64.ofInt d).toInt = a.selected + d
  last : (Int64.ofNat a.snapshot.companions.length - 1).toInt =
    (a.snapshot.companions.length : Int) - 1

/-- List, selection and sizes are the same. -/
structure Still (a b : App α) : Prop where
  selected : b.selected = a.selected
  snapshot : b.snapshot = a.snapshot
  geometry : b.surface.geometry = a.surface.geometry

theorem Still.refl (a : App α) : Still a a := ⟨rfl, rfl, rfl⟩

theorem Aside.still (h : Aside a b) (hg : b.surface.geometry = a.surface.geometry) :
    Still a b :=
  ⟨h.spares.1, h.same.snapshot, hg⟩

theorem still_pressOpen (now : Nanos) (a : App α) : Still a (a.pressOpen now).app := by
  unfold pressOpen
  split
  · exact .refl a
  · exact ⟨rfl, rfl, rfl⟩

variable [Length α]

/-- The rows by which a key moves the selection outside help and search box, if it moves it. -/
def strideOf? (key : Key) (a : App α) : Option Int :=
  match key with
  | .char 'j' | .down => some 1
  | .char 'k' | .up => some (-1)
  | .pageDown => some a.pageRows
  | .pageUp => some (-a.pageRows)
  | .char 'g' | .home => some firstRow
  | .char 'G' | .endKey => some lastRow
  | _ => none

def stride? (k : KeyPress) (a : App α) : Option Int :=
  if k.control ∧ k.key = .char 'c' ∨ a.helpShown ∨ a.searchMode then none else a.strideOf? k.key

/-- What a key does to the selection. -/
inductive Steers (a : App α) : Option Int → Pressed α → Prop
  | moves (d : Int) : Steers a (some d) { app := a.moveSelection d }
  | stays {p : Pressed α} (h : Still a p.app) : Steers a none p

theorem still_dispatch (now : Nanos) (e : SurfaceEvent α) (a : App α) :
    Still a (a.dispatch now e).app := by
  cases e <;> exact ⟨rfl, rfl, rfl⟩

theorem still_changeFilter (now : Nanos) (filter : Filter) (a : App α) :
    Still a (a.changeFilter now filter).app := by
  unfold changeFilter
  split
  · exact .refl a
  · exact still_dispatch now _ a

theorem still_pressInSearch (now : Nanos) (key : Key) (a : App α) :
    Still a (a.pressInSearch now key).app := by
  unfold pressInSearch
  split
  · exact ⟨rfl, rfl, rfl⟩
  · exact ⟨rfl, rfl, rfl⟩
  · exact ⟨rfl, rfl, rfl⟩
  · split <;> exact ⟨rfl, rfl, rfl⟩
  · exact .refl a

theorem still_pressFavorite (now : Nanos) (catalog : Catalog) (a : App α) :
    Still a (a.pressFavorite now catalog).app := by
  unfold pressFavorite
  split
  · exact .refl a
  · split
    · exact ⟨rfl, rfl, rfl⟩
    · exact still_dispatch now _ a

theorem still_pressScene (now : Nanos) (a : App α) : Still a (a.pressScene now).app := by
  unfold pressScene
  split <;> exact still_dispatch now _ a

theorem pressChar_steers (now : Nanos) (catalog : Catalog) (c : Char) (a : App α) :
    Steers a (a.strideOf? (.char c)) (a.pressChar now catalog c) := by
  unfold pressChar
  split
  · exact .stays (.refl a)
  · exact .stays ⟨rfl, rfl, rfl⟩
  · exact .moves 1
  · exact .moves (-1)
  · exact .moves firstRow
  · exact .moves lastRow
  · exact .stays (still_changeFilter now _ a)
  · exact .stays (still_changeFilter now _ a)
  · exact .stays (still_changeFilter now _ a)
  · exact .stays ⟨rfl, rfl, rfl⟩
  · exact .stays (still_pressScene now a)
  · exact .stays (still_pressFavorite now catalog a)
  · exact .stays (still_pressFavorite now catalog a)
  · exact .stays ⟨rfl, rfl, rfl⟩
  · exact .stays (still_dispatch now _ a)
  · exact .stays ⟨rfl, rfl, rfl⟩
  · split
    · exact .stays (.refl a)
    · exact .stays ⟨rfl, rfl, rfl⟩
  · have hnone : a.strideOf? (.char c) = none := by
      unfold strideOf?
      split <;> simp_all
    rw [hnone]
    exact .stays (.refl a)

theorem press_steers (now : Nanos) (catalog : Catalog) (k : KeyPress) (a : App α) :
    Steers a (a.stride? k) (a.press now catalog k) := by
  unfold press stride?
  by_cases hquit : k.control ∧ k.key = .char 'c'
  · rw [if_pos hquit, if_pos (Or.inl hquit)]
    exact .stays (.refl a)
  rw [if_neg hquit]
  by_cases hhelp : a.helpShown
  · rw [if_pos hhelp, if_pos (Or.inr (Or.inl hhelp))]
    exact .stays ⟨rfl, rfl, rfl⟩
  rw [if_neg hhelp]
  by_cases hsearch : a.searchMode
  · rw [if_pos hsearch, if_pos (Or.inr (Or.inr hsearch))]
    exact .stays (still_pressInSearch now k.key a)
  rw [if_neg hsearch, if_neg (by simp [hquit, hhelp, hsearch])]
  cases k.key with
  | char c => exact pressChar_steers now catalog c a
  | down => exact .moves 1
  | up => exact .moves (-1)
  | pageDown => exact .moves a.pageRows
  | pageUp => exact .moves (-a.pageRows)
  | home => exact .moves firstRow
  | endKey => exact .moves lastRow
  | tab => exact .stays (still_changeFilter now _ a)
  | enter => exact .stays (still_pressOpen now a)
  | escape => exact .stays (.refl a)
  | backspace => exact .stays (.refl a)
  | other => exact .stays (.refl a)

/-- What happens to the application. -/
inductive Step (a : App α) : App α → Prop
  | press (now : Nanos) (catalog : Catalog) (k : KeyPress) : Step a (a.press now catalog k).app
  | take (s : Snapshot) (h : s.companions.length < 2 ^ 61) : Step a (a.applySnapshot s)
  /-- The terminal counts its columns and rows in 16 bits. -/
  | frame (now : Moment) (width height : UInt16) :
      Step a (Screen.draw now width.toNat height.toNat a).1
  /-- A search text that waits is decided. -/
  | settle (ticket : UInt64) :
      Step a { a with
        surface := { a.surface with debouncer := (a.surface.debouncer.decide ticket).2 } }
  | aside {b : App α} (h : Aside a b) (hg : b.surface.geometry = a.surface.geometry) : Step a b

/-- The list is as high as some terminal leaves it. -/
def Measured (a : App α) : Prop :=
  ∃ rows, rows < 2 ^ 16 ∧ a.surface.geometry.container = Length.ofIndex (UInt64.ofNat rows)

/-- Before the first key: a list of any length that fits, the first companion selected. -/
structure Initial (a : App α) : Prop where
  selected : a.selected = 0
  count : a.snapshot.companions.length < 2 ^ 61
  measured : a.Measured

def Reachable (a : App α) : Prop := ∃ a₀, Initial a₀ ∧ Relation.ReflTransGen Step a₀ a

theorem Reachable.step (h : Reachable a) (hs : Step a b) : Reachable b := by
  obtain ⟨a₀, h₀, hr⟩ := h
  exact ⟨a₀, h₀, hr.tail hs⟩

/-- What every step keeps. -/
structure Designates (a : App α) : Prop where
  selected : a.selected < max 1 a.snapshot.companions.length
  count : a.snapshot.companions.length < 2 ^ 61
  measured : a.Measured

theorem designates_initial (h : Initial a) : Designates a := by
  refine ⟨?_, h.count, h.measured⟩
  have := h.selected
  omega

theorem Designates.still (h : Designates a) (hs : Still a b) : Designates b := by
  obtain ⟨hsel, hcount, hm⟩ := h
  refine ⟨by rw [hs.selected, hs.snapshot]; exact hsel, by rw [hs.snapshot]; exact hcount, ?_⟩
  unfold Measured
  rw [hs.geometry]
  exact hm

theorem Designates.moveSelection (h : Designates a) (d : Int) :
    Designates (a.moveSelection d) := by
  unfold App.moveSelection
  dsimp only
  split
  · exact h
  · refine ⟨?_, h.count, h.measured⟩
    dsimp only
    omega

theorem geometry_applySnapshot (s : Snapshot) (a : App α) :
    (a.applySnapshot s).surface.geometry = a.surface.geometry := by
  unfold applySnapshot
  dsimp only
  split <;> rfl

theorem selected_applySnapshot (s : Snapshot) (a : App α) :
    (a.applySnapshot s).selected =
      if s.generation = a.snapshot.generation then min a.selected (s.companions.length - 1)
      else 0 := by
  unfold applySnapshot
  dsimp only
  split
  · rfl
  · exact Nat.zero_min _

theorem scroll_applySnapshot (s : Snapshot) (a : App α) :
    (a.applySnapshot s).surface.scroll =
      if s.generation = a.snapshot.generation then a.surface.scroll else Length.zero := by
  unfold applySnapshot
  dsimp only
  split <;> rfl

theorem Designates.applySnapshot (h : Designates a) {s : Snapshot}
    (hs : s.companions.length < 2 ^ 61) : Designates (a.applySnapshot s) := by
  have hsnapshot := (applySnapshot_box s a).1
  refine ⟨?_, by rw [hsnapshot]; exact hs, ?_⟩
  · rw [hsnapshot, selected_applySnapshot]
    split <;> omega
  · unfold Measured
    rw [geometry_applySnapshot]
    exact h.measured

/-- A frame measures the rows of the list anew, if it draws them. -/
theorem draw_app (now : Moment) (width height : Nat) (a : App α) :
    (Screen.draw now width height a).1 = a ∨
      (Screen.draw now width height a).1 =
        { a with
          surface := a.surface.withContainer
            (Length.ofIndex (UInt64.ofNat (height - 2 - 2))) } := by
  unfold Screen.draw
  dsimp only
  split
  · left
    split <;> rfl
  · unfold Screen.drawList
    dsimp only
    split
    · left
      rfl
    · right
      rfl

theorem Designates.frame (h : Designates a) (now : Moment) (width height : UInt16) :
    Designates (Screen.draw now width.toNat height.toNat a).1 := by
  rcases draw_app now width.toNat height.toNat a with hsame | hnew
  · rw [hsame]
    exact h
  · have hh := height.toNat_lt
    rw [hnew]
    exact ⟨h.selected, h.count, height.toNat - 2 - 2, by omega, rfl⟩

theorem designates_step (hs : Step a b) (h : Designates a) : Designates b := by
  cases hs with
  | press now catalog k =>
    have hk := press_steers now catalog k a
    generalize a.stride? k = d? at hk
    generalize a.press now catalog k = p at hk
    cases hk with
    | moves d => exact h.moveSelection d
    | stays hp => exact h.still hp
  | take s hcount => exact h.applySnapshot hcount
  | frame now width height => exact h.frame now width height
  | settle ticket => exact h.still ⟨rfl, rfl, rfl⟩
  | aside ha hg => exact h.still (ha.still hg)

theorem designates_reachable (h : Reachable a) : Designates a := by
  obtain ⟨a₀, h₀, hr⟩ := h
  induction hr with
  | refl => exact designates_initial h₀
  | tail _ hs ih => exact designates_step hs ih

theorem pageRows_bounds (hα : Length.PagesWithin α) (h : a.Measured) :
    1 ≤ a.pageRows ∧ a.pageRows < 2 ^ 16 := by
  obtain ⟨rows, hrows, hc⟩ := h
  have hpage := hα rows a.surface.geometry.extent hrows
  unfold pageRows
  dsimp only
  rw [hc]
  split
  · decide
  · omega

theorem stride_bounds (hα : Length.PagesWithin α) (h : a.Measured) {k : KeyPress}
    (hd : a.stride? k = some d) : -2 ^ 62 ≤ d ∧ d < 2 ^ 62 := by
  obtain ⟨hlow, hhigh⟩ := pageRows_bounds hα h
  unfold stride? at hd
  split at hd
  · cases hd
  · unfold strideOf? at hd
    split at hd <;> cases hd <;> first | decide | omega

theorem Designates.movesExactly (hα : Length.PagesWithin α) (h : Designates a) {k : KeyPress}
    (hd : a.stride? k = some d) : a.MovesExactly d := by
  obtain ⟨hlow, hhigh⟩ := stride_bounds hα h.measured hd
  have hselected := h.selected
  have hcount := h.count
  have hstride : (Int64.ofInt d).toInt = d := Int64.toInt_ofInt_of_le (by omega) (by omega)
  refine ⟨hstride, Int64.toInt_ofNat_of_lt (by omega), ?_, ?_⟩
  · rw [← Int64.ofInt_eq_ofNat, ← Int64.ofInt_add]
    exact Int64.toInt_ofInt_of_le (by omega) (by omega)
  · rw [← Int64.ofInt_eq_ofNat]
    change (Int64.ofInt _ - Int64.ofInt 1).toInt = _
    rw [← Int64.ofInt_sub]
    exact Int64.toInt_ofInt_of_le (by omega) (by omega)

/-- Whatever lists and keys come, the selection is a companion of the list, or 0 if there is none. A
key moves it by sums that keep within 64 bits, or leaves it. A list with another number is shown
from its top with its first companion selected; one with the same number and as many companions
changes neither selection nor scroll offset. -/
theorem selection_designates (hα : Length.PagesWithin α) (h : Reachable a) :
    (a.snapshot.companions = [] → a.selected = 0) ∧
    (a.snapshot.companions ≠ [] → a.selected < a.snapshot.companions.length) ∧
    (∀ now catalog k, Steers a (a.stride? k) (a.press now catalog k) ∧
      ∀ d, a.stride? k = some d → a.MovesExactly d) ∧
    (∀ s : Snapshot, s.generation ≠ a.snapshot.generation →
      (a.applySnapshot s).selected = 0 ∧ (a.applySnapshot s).surface.scroll = Length.zero) ∧
    (∀ s : Snapshot, s.generation = a.snapshot.generation →
      s.companions.length = a.snapshot.companions.length →
      (a.applySnapshot s).selected = a.selected ∧
        (a.applySnapshot s).surface.scroll = a.surface.scroll) := by
  have hdes := designates_reachable h
  have hselected := hdes.selected
  refine ⟨?_, ?_, ?_, ?_, ?_⟩
  · intro hempty
    rw [hempty] at hselected
    exact Nat.lt_one_iff.mp hselected
  · intro hsome
    have hpos := List.length_pos_iff.mpr hsome
    omega
  · intro now catalog k
    exact ⟨press_steers now catalog k a, fun d hd => hdes.movesExactly hα hd⟩
  · intro s hs
    rw [selected_applySnapshot, scroll_applySnapshot, if_neg hs, if_neg hs]
    exact ⟨rfl, rfl⟩
  · intro s hs hlength
    rw [selected_applySnapshot, scroll_applySnapshot, if_pos hs, if_pos hs]
    exact ⟨by omega, rfl⟩

/-- The list that loses its last companion while that is selected. -/
theorem selection_designates_shrunk :
    let page (ids : List Int64) : Snapshot :=
      { roster := { companions := ids.map fun id => { id, name := "" } }, generation := 1 }
    let started : App Exact :=
      { surface :=
          { geometry := ⟨.finite 2, .finite 0, 2⟩, scroll := .finite 0
            debouncer := { quiet := 0 } }
        snapshot := {}, session := .inactive }
    let catalog : Catalog := { cache := .ofCapacity 0 1 }
    let a := ((started.applySnapshot (page [1, 2, 3])).press 0 catalog
      { key := .endKey }).app.applySnapshot (page [1, 2])
    Length.PagesWithin Exact ∧ Reachable a ∧ a.snapshot.companions.length = 2 ∧ a.selected = 1 ∧
      a.stride? { key := .pageDown } = some 10 ∧ a.MovesExactly 10 ∧
      (a.applySnapshot { page [4] with generation := 2 }).selected = 0 := by
  intro page started catalog a
  have hstart : Reachable started :=
    ⟨started, ⟨rfl, by decide, 0, by decide, rfl⟩, .refl⟩
  have ha : Reachable a :=
    ((hstart.step (.take (page [1, 2, 3]) (by decide))).step (.press 0 _ _)).step
      (.take (page [1, 2]) (by decide))
  obtain ⟨-, -, hkeys, hnew, -⟩ := selection_designates Exact.pagesWithin ha
  have hstride : a.stride? { key := .pageDown } = some 10 := by decide +kernel
  exact ⟨Exact.pagesWithin, ha, rfl, by decide +kernel, hstride, (hkeys 0 catalog _).2 10 hstride,
    (hnew _ (by decide)).1⟩

end App
end Companions
