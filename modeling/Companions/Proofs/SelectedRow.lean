import Companions.Proofs.Drawing
import Companions.Proofs.ListRows

/-! Whether a frame shows the selected companion. The offset shows it whole, but the list is drawn
from a whole row on: where the rows do not divide the height of the list, the row that was to stand
at the bottom is left out. -/
namespace Companions

/-- From row `y` on, these lines stand inside the border, as on a screen of their own. -/
def Canvas.ShowsLines (c : Canvas) (width height y : Nat) (lines : List (List Span)) : Prop :=
  ∀ l spans, lines[l]? = some spans →
    AgreeOn (fun x z => z = y + l ∧ 0 < x ∧ x + 1 < width)
      ((blank width height).drawSpans ⟨1, y + l, width - 2, 1⟩ spans) c

/-- There is room for a whole companion, and the selected one is among those that there is room
for. -/
structure App.SelectedFits (a : App Exact) (rows height : Nat) : Prop where
  room : rows ≤ height
  index : a.selected < a.snapshot.companions.length
  top : a.top ≤ a.selected
  bottom : a.selected < a.top + height / rows

namespace Screen

/-- The area of the companions. -/
def listArea (width height : Nat) : Area := ⟨1, 2, width - 2, height - 4⟩

/-- The lines in it. -/
def listLines (now : Moment) (width height : Nat) (a : App Exact) : List (List Span) :=
  (listRows now a (listArea width height)).take (height - 4)

/-- What is drawn before them. -/
def drawFrame (width height : Nat) (a : App Exact) (c : Canvas) : Canvas :=
  (c.drawRow ((⟨0, 0, width, height⟩ : Area).row 0) false (tabs a.snapshot)).drawBox
    ⟨0, 1, width, height - 2⟩ { foreground := some .cyan } (listTitle a)

def drawLines (now : Moment) (width height : Nat) (a : App Exact) (c : Canvas) : Canvas :=
  (listLines now width height a).zipIdx.foldl
    (fun c (spans, i) => c.drawSpans ((listArea width height).row i) spans) c

variable {now : Moment} {width height rows : Nat} {a : App Exact}

theorem inner_eq : (⟨0, 1, width, height - 2⟩ : Area).inner = listArea width height := by
  simp [Area.inner, listArea, Nat.sub_sub]

section Edits

variable {P : Nat → Nat → (Cell → Cell) → Prop}

theorem edits_drawStatus {area : Area}
    (h : ∀ x y f, area.y ≤ y → y < area.y + area.height → P x y f) (hpos : 0 < area.height) :
    Canvas.Edits P (drawStatus area a) := by
  have hpaint : Canvas.Edits P (Canvas.paint area (statusPen a)) :=
    .fill fun i _ j hj => h _ _ _ (by omega) (by omega)
  have hrow (spans : List Span) : Canvas.Edits P (Canvas.drawRow area false spans) :=
    .drawRow fun x f => h x area.y f (by omega) (by omega)
  have hd : drawStatus area a = fun c =>
      Canvas.drawRow area false [⟨firstLine (statusText a ++ visitText a.session), {}⟩]
        (c.paint area (statusPen a)) := rfl
  rw [hd]
  exact hpaint.seq (hrow _)

theorem edits_drawFrame (htabs : ∀ x f, P x 0 f)
    (hbox : ∀ x y (p : Pen) f, (⟨0, 1, width, height - 2⟩ : Area).OnBorder x y →
      p.background = none → p.Edit f → P x y f) :
    Canvas.Edits P (drawFrame width height a) := by
  have hrow : Canvas.Edits P
      (Canvas.drawRow ((⟨0, 0, width, height⟩ : Area).row 0) false (tabs a.snapshot)) :=
    .drawRow htabs
  have hborder : Canvas.Edits P (Canvas.drawBox ⟨0, 1, width, height - 2⟩
      { foreground := some .cyan } (listTitle a)) :=
    .drawBox rfl hbox
  exact hrow.seq hborder

end Edits

theorem getElem?_listLines (h : a.Framed rows (height - 4)) (hrows : rows ≤ height - 4)
    (hsize : height < UInt64.size) (i : Nat) :
    (listLines now width height a)[i]? =
      if i / rows < (height - 4) / rows then
        a.snapshot.companions[a.top + i / rows]?.bind fun c =>
          (itemRows now c (a.top + i / rows = a.selected) rows (width - 2))[i % rows]?
      else none := by
  have hlist : (listRows now a (listArea width height))[i]? = _ :=
    getElem?_listRows h hrows (by simp only [listArea]; omega) i
  rw [listLines, List.getElem?_take, hlist]
  split
  · rfl
  · rename_i hi
    -- a line behind the end of the list belongs to no item that fits
    have hfar : (height - 4) / rows ≤ i / rows := Nat.div_le_div_right (by omega)
    rw [if_neg (by omega)]

section

variable (hw : minWidth ≤ width) (hh : minHeight ≤ height) (hsize : height < UInt64.size)

include hw hh hsize

theorem drawList_eq (c : Canvas) :
    let b : App Exact := { a with surface := a.surface.withContainer (.finite (height - 4 : Nat)) }
    drawList now ⟨0, 1, width, height - 2⟩ a c =
      (b, drawLines now width height b
        (c.drawBox ⟨0, 1, width, height - 2⟩ { foreground := some .cyan } (listTitle b))) := by
  have hlarge : ¬(width < 3 ∨ height - 2 < 3) := by
    simp only [minWidth, minHeight] at hw hh
    omega
  have hcontainer : (Length.ofIndex (UInt64.ofNat (listArea width height).height) : Exact) =
      .finite (height - 4 : Nat) := by
    have hlt : height - 4 < UInt64.size := by omega
    rw [Exact.ofIndex_eq, listArea, UInt64.toNat_ofNat_of_lt' hlt]
  unfold drawList
  rw [if_neg hlarge]
  dsimp only
  rw [inner_eq, hcontainer]
  rfl

theorem draw_fst :
    (draw now width height a).1 =
      { a with surface := a.surface.withContainer (.finite (height - 4 : Nat)) } := by
  have hlarge : ¬(width < minWidth ∨ height < minHeight) := by omega
  unfold draw
  dsimp only
  rw [if_neg hlarge, drawList_eq hw hh hsize]

theorem draw_snd (h : a.Framed rows (height - 4)) :
    (draw now width height a).2 =
      drawStatus ((⟨0, 0, width, height⟩ : Area).row (height - 1)) a
        (drawLines now width height a (drawFrame width height a (.blank width height))) := by
  have hlarge : ¬(width < minWidth ∨ height < minHeight) := by omega
  have ha : ({ a with surface := a.surface.withContainer (.finite (height - 4 : Nat)) } : App Exact)
      = a := by
    rw [← h.container]
    rfl
  unfold draw
  dsimp only
  rw [if_neg hlarge, drawList_eq hw hh hsize, ha]
  dsimp only
  rw [h.help, if_neg Bool.false_ne_true, drawFrame]

theorem draw_line (h : a.Framed rows (height - 4)) {i : Nat} {spans : List Span}
    (hi : (listLines now width height a)[i]? = some spans) :
    Canvas.AgreeOn (fun x y => y = 2 + i ∧ 0 < x ∧ x + 1 < width)
      ((Canvas.blank width height).drawSpans ⟨1, 2 + i, width - 2, 1⟩ spans)
      (draw now width height a).2 := by
  have hlow : i < height - 4 := by
    have := (List.getElem?_eq_some_iff.mp hi).1
    simp only [listLines, List.length_take] at this
    omega
  have hlarge : 8 ≤ height := hh
  -- the border, the tabs and the status bar leave the inside of the list alone
  have hframe : Canvas.AgreeOn (fun x y => y = 2 + i ∧ 0 < x ∧ x + 1 < width)
      (.blank width height) (drawFrame width height a (.blank width height)) := by
    refine (edits_drawFrame (P := fun x y _ => x = 0 ∨ x + 1 ≥ width ∨ y ≤ 1 ∨ y ≥ height - 2)
      ?_ ?_).spares ?_ _
    · intro x f
      omega
    · intro x y p f hb _ _
      simp only [Area.OnBorder, Area.right, Area.bottom] at hb
      omega
    · intro x y f hy
      omega
  have hspans : Canvas.Edits (fun _ _ _ => True)
      (Canvas.drawSpans ⟨1, 2 + i, width - 2, 1⟩ spans) :=
    .drawSpans spans fun _ _ _ _ _ _ _ => trivial
  have hline := (Canvas.agreeOn_drawLines 0 hi
    (drawFrame width height a (.blank width height)) (a := listArea width height)).mono
    (T := fun x y => y = 2 + i ∧ 0 < x ∧ x + 1 < width) (by
      rintro x y ⟨rfl, -⟩
      simp [listArea])
  have hstatus : Canvas.Edits (fun _ y _ => y = height - 1)
      (drawStatus ((⟨0, 0, width, height⟩ : Area).row (height - 1)) a) :=
    edits_drawStatus (by
      simp only [Area.row]
      intro x y f
      omega) Nat.one_pos
  rw [draw_snd hw hh hsize h]
  rw [Nat.zero_add] at hline
  refine ((hspans.agree hframe).trans hline).trans (hstatus.spares ?_ _)
  intro x y f hy
  omega

/-- Where the list has a dark ground there is a piece of text with a ground of its own. -/
theorem draw_dark (h : a.Framed rows (height - 4)) {x y : Nat} (hy0 : 0 < y) (hy : y + 1 < height)
    (hdark : ((draw now width height a).2.cell x y).look.background = .darkGray) :
    ∃ i spans s, y = 2 + i ∧ (listLines now width height a)[i]? = some spans ∧ s ∈ spans ∧
      s.pen.background ≠ none := by
  have hlarge : 8 ≤ height := hh
  -- every change keeps the ground of a cell, except where the claim allows it
  let Q (_ y : Nat) (cell : Cell) : Prop := cell.look.background = .darkGray → y = 0 ∨
    y = height - 1 ∨ ∃ i spans s, y = 2 + i ∧ (listLines now width height a)[i]? = some spans ∧
      s ∈ spans ∧ s.pen.background ≠ none
  have hplain (x y : Nat) (p : Pen) (f : Cell → Cell) (hp : p.background = none) (hf : p.Edit f)
      (cell : Cell) (hcell : Q x y cell) : Q x y (f cell) := by
    intro hd
    rcases hf cell with hl | hl <;> rw [hl] at hd
    · exact hcell (by simpa [Look.with, hp] using hd)
    · cases hd
  have hedits : Canvas.Edits (fun x y f => ∀ cell, Q x y cell → Q x y (f cell)) fun c =>
      drawStatus ((⟨0, 0, width, height⟩ : Area).row (height - 1)) a
        (drawLines now width height a (drawFrame width height a c)) := by
    refine .seq (.seq (edits_drawFrame ?_ ?_) (.drawLines _ 0 ?_)) (edits_drawStatus ?_ Nat.one_pos)
    · exact fun x f cell _ _ => .inl rfl
    · exact fun x y p f _ hp hf => hplain x y p f hp hf
    · intro i spans hi s hs x f _ _ hf
      by_cases hp : s.pen.background = none
      · exact hplain x _ s.pen f hp hf
      · rintro cell _ _
        exact .inr (.inr ⟨i, spans, s, by simp [listArea], hi, hs, hp⟩)
    · simp only [Area.row]
      intro x y f _ _ cell _ _
      exact .inr (.inl (by omega))
  rw [draw_snd hw hh hsize h] at hdark
  have hblank (x y : Nat) : Q x y ((Canvas.blank width height).cell x y) := by
    rw [Canvas.cell_blank]
    rintro ⟨⟩
  rcases hedits.keeps (fun _ _ _ hP => hP) hblank x y hdark with rfl | rfl | hi
  · omega
  · omega
  · exact hi

theorem shows_selected (h : a.Framed rows (height - 4))
    (hfits : a.SelectedFits rows (height - 4)) :
    ∃ c, a.selectedCompanion? = some c ∧
      (draw now width height a).2.ShowsLines width height (2 + (a.selected - a.top) * rows)
        (itemRows now c true rows (width - 2)) := by
  refine ⟨_, List.getElem?_eq_getElem hfits.index, ?_⟩
  intro l spans hl
  have hpos := h.pos
  have hlt : l < rows := by
    have := (List.getElem?_eq_some_iff.mp hl).1
    rwa [length_itemRows hpos] at this
  have hitem : ((a.selected - a.top) * rows + l) / rows = a.selected - a.top := by
    rw [Nat.mul_comm, Nat.mul_add_div hpos, Nat.div_eq_of_lt hlt, Nat.add_zero]
  have hline : ((a.selected - a.top) * rows + l) % rows = l := by
    rw [Nat.mul_comm, Nat.mul_add_mod, Nat.mod_eq_of_lt hlt]
  have hindex : a.top + (a.selected - a.top) = a.selected := Nat.add_sub_cancel' hfits.top
  have hi : (listLines now width height a)[(a.selected - a.top) * rows + l]? = some spans := by
    have hfit := hfits.bottom
    rw [getElem?_listLines h hfits.room hsize, hitem, hline, hindex, if_pos (by omega),
      List.getElem?_eq_getElem hfits.index]
    simpa using hl
  have hframe : Canvas.AgreeOn _ _ (draw now width height a).2 :=
    draw_line hw hh hsize h hi
  rwa [← Nat.add_assoc] at hframe

theorem dark_selected (h : a.Framed rows (height - 4)) {x y : Nat} (hy0 : 0 < y)
    (hy : y + 1 < height)
    (hdark : ((draw now width height a).2.cell x y).look.background = .darkGray) :
    a.SelectedFits rows (height - 4) ∧ y = 2 + (a.selected - a.top) * rows := by
  obtain ⟨i, spans, s, rfl, hi, hs, hp⟩ := draw_dark hw hh hsize h hy0 hy hdark
  by_cases hrows : rows ≤ height - 4
  · rw [getElem?_listLines h hrows hsize] at hi
    split at hi
    · rename_i hfit
      obtain ⟨c, hc, hl⟩ := Option.bind_eq_some_iff.mp hi
      have hsel : a.top + i / rows = a.selected ∧ i % rows = 0 := by
        by_contra hne
        exact hp (background_of_mem_itemRows hl hs (by simpa using hne))
      have hindex := (List.getElem?_eq_some_iff.mp hc).1
      have hline : i / rows * rows = i := Nat.div_mul_cancel (Nat.dvd_of_mod_eq_zero hsel.2)
      rw [hsel.1] at hindex
      refine ⟨⟨hrows, hindex, Nat.le.intro hsel.1, ?_⟩, ?_⟩
      · rw [← hsel.1]
        exact Nat.add_lt_add_left hfit a.top
      · rw [← hsel.1, Nat.add_sub_cancel_left, hline]
    · cases hi
  · have hnone : listRows now a (listArea width height) = [] :=
      listRows_of_lt h (by simp only [listArea]; omega) (by simp only [listArea]; omega)
    simp [listLines, hnone] at hi

end

end Screen

namespace App

variable {a : App Exact} {rows height : Nat}

theorem Framed.moveSelection (h : a.Framed rows height) (delta : Int) :
    (a.moveSelection delta).Framed rows height := by
  unfold App.moveSelection
  dsimp only
  split
  · exact h
  · exact ⟨⟨h.extent, h.pos, h.layout, h.nonempty, h.count, h.help⟩, h.container⟩

/-- A move leaves the selected companion whole between the edges of the list. If the list had to be
scrolled down for that, the companion ends at the lower edge. -/
theorem Framed.moved (h : a.Framed rows height) (hroom : rows ≤ height) (delta : Int) :
    let b := a.moveSelection delta
    b.selected < b.snapshot.companions.length ∧
    ∃ p q : Rat, Length.soundOffset a.surface.scroll = .finite p ∧ b.surface.scroll = .finite q ∧
      ShowsWhole rows height b.selected q ∧
      (p < q → (b.selected + 1) * rows = q + height) := by
  intro b
  have hne : a.snapshot.companions.length ≠ 0 := h.length_pos.ne'
  have hb : b = { a with
      selected := b.selected, surface := a.surface.reveal (UInt64.ofNat b.selected) } := by
    simp only [b, App.moveSelection, if_neg hne]
  have hindex : b.selected < a.snapshot.companions.length := by
    simp only [b, App.moveSelection, if_neg hne]
    omega
  have hcount : (UInt64.ofNat b.selected).toNat = b.selected :=
    UInt64.toNat_ofNat_of_lt' (hindex.trans h.count)
  have hp := Exact.soundOffset_eq a.surface.scroll
  obtain ⟨q, hq, hshows, hedge⟩ := @Geometry.intoView_shows _ _ (UInt64.ofNat b.selected) _ _ _
    h.soundExtent h.soundContainer hp (by positivity) a.surface.scroll.asOffset_nonneg
    (by exact_mod_cast hroom)
  rw [hcount] at hshows hedge
  have hscroll : b.surface.scroll = .finite q :=
    (congrArg (fun c : App Exact => c.surface.scroll) hb).trans hq
  exact ⟨by rw [hb]; exact hindex, _, q, hp, hscroll, hshows, hedge⟩

/-- Where the top row begins and ends. Keeping the offset within the list keeps the selected
companion between the edges. -/
theorem Framed.top_bounds (h : a.Framed rows height)
    (hindex : a.selected < a.snapshot.companions.length) {q : Rat}
    (hscroll : a.surface.scroll = .finite q) (hq : ShowsWhole rows height a.selected q) :
    ∃ offset : Rat, a.top * rows ≤ offset ∧ offset < (a.top + 1) * rows ∧
      ShowsWhole rows height a.selected offset ∧
      ((a.selected + 1) * rows = q + height → offset = q) := by
  have hpos : (0 : Rat) < rows := by exact_mod_cast h.pos
  have hlast : (a.selected + 1 : Rat) * rows ≤ a.snapshot.companions.length * rows := by
    have : (a.selected + 1 : Rat) ≤ a.snapshot.companions.length := by exact_mod_cast hindex
    exact mul_le_mul_of_nonneg_right this hpos.le
  have htop := h.top_eq (q := q) (by rw [hscroll, Exact.soundOffset_finite, max_eq_left hq.nonneg])
  have hmax := le_max_left (a.snapshot.companions.length * rows - height : Rat) 0
  have hoffset : 0 ≤ min q (max (a.snapshot.companions.length * rows - height : Rat) 0) :=
    le_min hq.nonneg (le_max_right _ _)
  refine ⟨min q (max (a.snapshot.companions.length * rows - height : Rat) 0), ?_, ?_, ?_, ?_⟩
  · rw [htop]
    exact (le_div_iff₀ hpos).mp (Nat.floor_le (by positivity))
  · rw [htop]
    exact (div_lt_iff₀ hpos).mp (Nat.lt_floor_add_one _)
  · refine ⟨hoffset, (min_le_left _ _).trans hq.top, ?_⟩
    rw [← sub_le_iff_le_add]
    have := hq.bottom
    exact le_min (by linarith) (by linarith)
  · intro hedge
    exact min_eq_left (by linarith)

/-- With the selected companion between the edges, the one at the top is not behind it. It fits if
the rows divide the height; otherwise it does not if it ends at the lower edge. -/
theorem Framed.selectedFits (h : a.Framed rows height) (hroom : rows ≤ height)
    (hindex : a.selected < a.snapshot.companions.length) {q : Rat}
    (hscroll : a.surface.scroll = .finite q) (hq : ShowsWhole rows height a.selected q) :
    (rows ∣ height → a.SelectedFits rows height) ∧
    ((a.selected + 1) * rows = q + height → a.SelectedFits rows height → rows ∣ height) := by
  obtain ⟨offset, hfrom, hto, hshows, hkept⟩ := h.top_bounds hindex hscroll hq
  have htop := hshows.top
  have hbottom := hshows.bottom
  constructor
  · rintro ⟨m, rfl⟩
    have hfirst : a.top * rows ≤ a.selected * rows := by exact_mod_cast hfrom.trans htop
    have hend : (a.selected + 1) * rows < (a.top + 1 + m) * rows := by
      rw [Nat.add_mul (a.top + 1) m, Nat.mul_comm m]
      exact_mod_cast hbottom.trans_lt (add_lt_add_left hto _)
    refine ⟨hroom, hindex, Nat.le_of_mul_le_mul_right hfirst h.pos, ?_⟩
    rw [Nat.mul_div_cancel_left m h.pos]
    have := Nat.lt_of_mul_lt_mul_right hend
    omega
  · intro hedge hfits
    have hover : a.top * rows + height ≤ (a.selected + 1) * rows := by
      rw [hkept hedge] at hfrom
      exact_mod_cast (by linarith : (a.top : Rat) * rows + height ≤ (a.selected + 1) * rows)
    have hunder : (a.selected + 1) * rows ≤ (a.top + height / rows) * rows :=
      Nat.mul_le_mul_right rows hfits.bottom
    rw [Nat.add_mul] at hunder
    exact Dvd.intro_left (height / rows)
      (Nat.le_antisymm (Nat.div_mul_le_self height rows) (by linarith))

theorem Lists.framed {width : Nat} {now : Moment} (h : a.Lists rows)
    (hw : Screen.minWidth ≤ width) (hh : Screen.minHeight ≤ height)
    (hsize : height < UInt64.size) :
    (Screen.draw now width height a).1.Framed rows (height - 4) := by
  rw [Screen.draw_fst hw hh hsize]
  exact ⟨⟨h.extent, h.pos, h.layout, h.nonempty, h.count, h.help⟩, rfl⟩

theorem Framed.moves (h : a.Framed rows height) (deltas : List Int) :
    (deltas.foldl (fun a d => a.moveSelection d) a).Framed rows height := by
  induction deltas generalizing a with
  | nil => exact h
  | cons d ds ih => exact ih (h.moveSelection d)

end App

namespace Screen

variable {now later : Moment} {width height rows : Nat} {a : App Exact}

/-- After any moves on a list that was drawn, the next frame shows the selected companion with all
its rows just if it is among the whole companions that there is room for from the top row on, and
nothing else in the list has a dark ground. After a move that is so if the rows divide the height of
the list, but otherwise not if the list had to be scrolled down. -/
theorem selected_drawn_whole (h : a.Lists rows) (hw : minWidth ≤ width) (hh : minHeight ≤ height)
    (hsize : height < UInt64.size) (deltas : List Int) :
    let moved (ds : List Int) := ds.foldl (fun a d => a.moveSelection d) (draw now width height a).1
    let b := moved deltas
    let frame := (draw later width height b).2
    let y := 2 + (b.selected - b.top) * rows
    (b.SelectedFits rows (height - 4) → ∃ c, b.selectedCompanion? = some c ∧
      frame.ShowsLines width height y (itemRows later c true rows (width - 2))) ∧
    (∀ x z, 0 < z → z + 1 < height → (frame.cell x z).look.background = .darkGray →
      b.SelectedFits rows (height - 4) ∧ z = y) ∧
    (deltas ≠ [] → rows ∣ height - 4 → b.SelectedFits rows (height - 4)) ∧
    (∀ ds d, deltas = ds ++ [d] → rows ≤ height - 4 →
      Length.lt (Length.soundOffset (moved ds).surface.scroll) b.surface.scroll →
      (b.SelectedFits rows (height - 4) ↔ rows ∣ height - 4)) := by
  intro moved b frame y
  have hmoved (ds : List Int) : (moved ds).Framed rows (height - 4) :=
    (h.framed hw hh hsize).moves ds
  have hb : b.Framed rows (height - 4) := hmoved deltas
  have hsnoc {ds : List Int} {d : Int} (hd : deltas = ds ++ [d]) :
      b = (moved ds).moveSelection d := by
    simp only [b, hd, moved, List.foldl_append, List.foldl_cons, List.foldl_nil]
  refine ⟨shows_selected hw hh hsize hb,
    fun x z hz0 hz => dark_selected hw hh hsize hb hz0 hz, ?_, ?_⟩
  · intro hne hdvd
    have hroom : rows ≤ height - 4 := by
      have hlarge : 8 ≤ height := hh
      exact Nat.le_of_dvd (by omega) hdvd
    have hd := hsnoc (List.dropLast_concat_getLast hne).symm
    obtain ⟨hindex, p, q, hp, hq, hshows, -⟩ :=
      (hmoved deltas.dropLast).moved hroom (deltas.getLast hne)
    rw [← hd] at hindex hq hshows
    exact (hb.selectedFits hroom hindex hq hshows).1 hdvd
  · intro ds d hd hroom hlt
    obtain ⟨hindex, p, q, hp, hq, hshows, hedge⟩ := (hmoved ds).moved hroom d
    rw [← hsnoc hd] at hindex hq hshows hedge
    rw [hp, hq, Exact.lt_finite, decide_eq_true_eq] at hlt
    obtain ⟨hfits, hdvd⟩ := hb.selectedFits hroom hindex hq hshows
    exact ⟨hdvd (hedge hlt), hfits⟩

def annBobAndCleo (rows : Nat) : App Exact where
  surface :=
    { geometry := { extent := .finite rows, container := .finite 0, overscan := 2 }
      scroll := .finite 0
      debouncer := { quiet := 0 } }
  snapshot :=
    { roster :=
      { companions :=
        [{ id := 1, name := "Ann" }, { id := 2, name := "Bob" }, { id := 3, name := "Cleo" }] } }
  session := .inactive

theorem annBobAndCleo_lists (rows : Nat) (h : 1 ≤ rows) : (annBobAndCleo rows).Lists rows :=
  ⟨rfl, h, rfl, List.cons_ne_nil _ _, (by decide : 3 < UInt64.size), rfl⟩

theorem selected_drawn_whole_two_rows :
    let epoch : Moment := ⟨0, by decide, by decide⟩
    let b := (draw epoch 40 8 (annBobAndCleo 2)).1.moveSelection 2
    (annBobAndCleo 2).Lists 2 ∧ (b.selectedCompanion?.map fun c => c.name) = some "Cleo" ∧
    ∃ c, b.selectedCompanion? = some c ∧
      (draw epoch 40 8 b).2.ShowsLines 40 8 4 (itemRows epoch c true 2 38) := by
  intro epoch b
  have h := annBobAndCleo_lists 2 (by decide)
  obtain ⟨hshown, -, hfits, -⟩ := @selected_drawn_whole epoch epoch 40 8 2 (annBobAndCleo 2) h
    (by decide) (by decide) (by decide) [2]
  obtain ⟨c, hc, hframe⟩ := hshown (hfits (by simp) (by decide))
  have hb : b = App.moveSelection 2 _ :=
    congrArg (App.moveSelection 2) (draw_fst (by decide) (by decide) (by decide))
  have hplace : 2 + (b.selected - b.top) * 2 = 4 := by
    rw [hb]
    decide +kernel
  refine ⟨h, ?_, c, hc, hplace ▸ hframe⟩
  rw [hb]
  rfl

/-- With two rows each and five for all of them, the companion that the list was scrolled down to is
not drawn. -/
theorem selected_left_out :
    let epoch : Moment := ⟨0, by decide, by decide⟩
    let b := (draw epoch 40 9 (annBobAndCleo 2)).1.moveSelection 2
    (annBobAndCleo 2).Lists 2 ∧ (b.selectedCompanion?.map fun c => c.name) = some "Cleo" ∧
    ∀ x z, 0 < z → z + 1 < 9 →
      ((draw epoch 40 9 b).2.cell x z).look.background ≠ .darkGray := by
  intro epoch b
  have h := annBobAndCleo_lists 2 (by decide)
  have hframed : (draw epoch 40 9 (annBobAndCleo 2)).1.Framed 2 5 :=
    h.framed (by decide) (by decide) (by decide)
  have hb : b = App.moveSelection 2 _ :=
    congrArg (App.moveSelection 2) (draw_fst (by decide) (by decide) (by decide))
  refine ⟨h, by rw [hb]; rfl, fun x z hz0 hz hdark => ?_⟩
  have hfits := (dark_selected (by decide) (by decide) (by decide) (hframed.moveSelection 2) hz0 hz
    hdark).1
  have hbelow : ¬b.selected < b.top + 5 / 2 := by
    rw [hb]
    decide +kernel
  exact hbelow hfits.bottom

end Screen
end Companions
