import Companions.Screen.Frame

/-! Drawing changes cells one by one. From which cells it changes, and how, follows what it leaves
alone, and that it does the same on screens that are alike. -/
namespace Companions

/-- A change that draws over the look of a cell with this pen, or wipes it. -/
def Pen.Edit (p : Pen) (f : Cell → Cell) : Prop :=
  ∀ c, (f c).look = c.look.with p ∨ (f c).look = {}

theorem Pen.edit_wipe (p : Pen) : p.Edit fun _ => {} := fun _ => Or.inr rfl

/-- The columns and rows that a border takes. -/
def Area.OnBorder (a : Area) (x y : Nat) : Prop :=
  x = a.x ∨ x = a.right - 1 ∨ y = a.y ∨ y = a.bottom - 1

namespace Canvas

variable {c d : Canvas} {S : Nat → Nat → Prop}

@[simp] theorem width_modify (c : Canvas) (x y : Nat) (f : Cell → Cell) :
    (c.modify x y f).width = c.width := by
  unfold modify
  split <;> rfl

@[simp] theorem size_modify (c : Canvas) (x y : Nat) (f : Cell → Cell) :
    (c.modify x y f).cells.size = c.cells.size := by
  unfold modify
  split <;> simp

@[simp] theorem cell_blank (width height x y : Nat) : (blank width height).cell x y = {} := by
  unfold cell blank
  split
  · rw [Array.getD_eq_getD_getElem?, Array.getElem?_replicate]
    split <;> rfl
  · rfl

theorem cell_modify (c : Canvas) (x y : Nat) (f : Cell → Cell) (x' y' : Nat) :
    (c.modify x y f).cell x' y' =
      if x' = x ∧ y' = y ∧ x < c.width ∧ y * c.width + x < c.cells.size then f (c.cell x y)
      else c.cell x' y' := by
  by_cases hx : x < c.width
  · by_cases hx' : x' < c.width
    · -- a position in the array tells column and row
      have hplace : y' * c.width + x' = y * c.width + x ↔ x' = x ∧ y' = y := by
        constructor
        · intro h
          have hy := congrArg (· / c.width) h
          simp only [Nat.add_comm _ x, Nat.add_comm _ x', Nat.add_mul_div_right _ _
            (Nat.zero_lt_of_lt hx), Nat.div_eq_of_lt hx, Nat.div_eq_of_lt hx', Nat.zero_add] at hy
          subst hy
          exact ⟨by omega, rfl⟩
        · rintro ⟨rfl, rfl⟩
          rfl
      simp only [modify, if_pos hx, cell, if_pos hx', Array.getD_eq_getD_getElem?,
        Array.getElem?_modify]
      by_cases hxy : x' = x ∧ y' = y
      · obtain ⟨rfl, rfl⟩ := hxy
        by_cases hs : y' * c.width + x' < c.cells.size <;> simp [hx, hs]
      · rw [if_neg fun h => hxy (hplace.mp h.symm), if_neg fun h => hxy ⟨h.1, h.2.1⟩]
    · have hne : x' ≠ x := fun h => hx' (h ▸ hx)
      simp only [cell, width_modify, if_neg hx', hne, false_and, if_false]
  · simp only [modify, hx, false_and, and_false, if_false]

/-- Two screens of one size that are alike on these cells. -/
structure AgreeOn (S : Nat → Nat → Prop) (c d : Canvas) : Prop where
  width : c.width = d.width
  size : c.cells.size = d.cells.size
  cell : ∀ x y, S x y → c.cell x y = d.cell x y

theorem AgreeOn.refl (S : Nat → Nat → Prop) (c : Canvas) : AgreeOn S c c :=
  ⟨rfl, rfl, fun _ _ _ => rfl⟩

theorem AgreeOn.trans {e : Canvas} (h : AgreeOn S c d) (h' : AgreeOn S d e) : AgreeOn S c e :=
  ⟨h.width.trans h'.width, h.size.trans h'.size,
    fun x y hs => (h.cell x y hs).trans (h'.cell x y hs)⟩

theorem AgreeOn.mono {T : Nat → Nat → Prop} (h : AgreeOn S c d) (ht : ∀ x y, T x y → S x y) :
    AgreeOn T c d :=
  ⟨h.width, h.size, fun x y hs => h.cell x y (ht x y hs)⟩

/-- What drawing consists of: changes `f` of single cells `x`, `y`, each with `P x y f`. -/
inductive Edits (P : Nat → Nat → (Cell → Cell) → Prop) : (Canvas → Canvas) → Prop
  | keep : Edits P fun c => c
  | modify {x y : Nat} {f : Cell → Cell} (h : P x y f) : Edits P (Canvas.modify x y f)
  | seq {f g : Canvas → Canvas} (hf : Edits P f) (hg : Edits P g) : Edits P fun c => g (f c)

namespace Edits

variable {P : Nat → Nat → (Cell → Cell) → Prop} {draw : Canvas → Canvas}

theorem agree (h : Edits P draw) (hc : AgreeOn S c d) : AgreeOn S (draw c) (draw d) := by
  induction h generalizing c d with
  | keep => exact hc
  | @modify x y f _ =>
    refine ⟨by simp [hc.width], by simp [hc.size], fun x' y' hs => ?_⟩
    rw [cell_modify, cell_modify, hc.width, hc.size]
    split
    · rename_i hxy
      obtain ⟨rfl, rfl, -⟩ := hxy
      rw [hc.cell _ _ hs]
    · exact hc.cell _ _ hs
  | seq _ _ ihf ihg => exact ihg (ihf hc)

theorem spares (h : Edits P draw) (hP : ∀ x y f, P x y f → ¬S x y) (c : Canvas) :
    AgreeOn S c (draw c) := by
  induction h generalizing c with
  | keep => exact .refl S c
  | @modify x y f h =>
    refine ⟨by simp, by simp, fun x' y' hs => ?_⟩
    rw [cell_modify, if_neg]
    rintro ⟨rfl, rfl, -⟩
    exact hP _ _ _ h hs
  | seq _ _ ihf ihg => exact (ihf c).trans (ihg _)

/-- What every change keeps of the cell that it changes holds of all cells afterwards. -/
theorem keeps {Q : Nat → Nat → Cell → Prop} (h : Edits P draw)
    (hP : ∀ x y f, P x y f → ∀ cell, Q x y cell → Q x y (f cell)) (hc : ∀ x y, Q x y (c.cell x y)) :
    ∀ x y, Q x y ((draw c).cell x y) := by
  induction h generalizing c with
  | keep => exact hc
  | @modify x y f h =>
    intro x' y'
    rw [cell_modify]
    split
    · rename_i hxy
      obtain ⟨rfl, rfl, -⟩ := hxy
      exact hP _ _ _ h _ (hc _ _)
    · exact hc x' y'
  | seq _ _ ihf ihg => exact ihg (ihf hc)

theorem foldl {α : Type} {draw : α → Canvas → Canvas} {as : List α}
    (h : ∀ a ∈ as, Edits P (draw a)) : Edits P fun c => as.foldl (fun c a => draw a c) c := by
  induction as with
  | nil => exact .keep
  | cons a as ih =>
    exact .seq (h a List.mem_cons_self) (ih fun b hb => h b (List.mem_cons_of_mem a hb))

theorem put {x y : Nat} {g : List Char} {p : Pen} (h : ∀ f, p.Edit f → P x y f) :
    Edits P (Canvas.put x y g p) :=
  .modify (h _ fun _ => Or.inl rfl)

theorem append {x y : Nat} {g : List Char} {p : Pen} (h : ∀ f, p.Edit f → P x y f) :
    Edits P (Canvas.append x y g p) :=
  .modify (h _ fun _ => Or.inl rfl)

theorem fill {a : Area} {f : Cell → Cell}
    (h : ∀ i < a.width, ∀ j < a.height, P (a.x + i) (a.y + j) f) : Edits P (Canvas.fill a f) := by
  refine .foldl fun j hj => .foldl fun i hi => .modify ?_
  exact h i (List.mem_range.mp hi) j (List.mem_range.mp hj)

theorem drawClusters {start right y : Nat} {p : Pen}
    (h : ∀ x f, start ≤ x → x < right → p.Edit f → P x y f) (hr : start < right)
    (gs : List (List Char)) {x : Nat} {first : Bool} (hx : start ≤ x) (hf : first → x = start) :
    Edits P (Canvas.drawClusters start right y p x first gs) := by
  induction gs generalizing x first with
  | nil => exact .keep
  | cons g gs ih =>
    by_cases hw : right < x + Text.width g
    · have hd : Canvas.drawClusters start right y p x first (g :: gs) = fun c => c := by
        funext c
        simp [Canvas.drawClusters, hw]
      rw [hd]
      exact .keep
    · have hhide : Edits P (Canvas.hide (x + 1) y (Text.width g - 1)) :=
        .fill fun i hi j hj => by
          dsimp only at hi hj ⊢
          obtain rfl : j = 0 := by omega
          exact h _ _ (by omega) (by omega) p.edit_wipe
      have hrest := @ih (x + Text.width g) false (by omega) (by simp)
      -- the cluster itself goes to its own cell or joins the one before
      have hcluster : Edits P fun c =>
          if first then c.put x y g p
          else if x = start then c.append x y g p
          else if Text.width g = 0 then c.append (x - 1) y g p
          else c.put x y g p := by
        split
        · rename_i hfirst
          have := hf hfirst
          exact .put fun f => h x f (by omega) (by omega)
        · split
          · exact .append fun f => h x f (by omega) (by omega)
          · split
            · exact .append fun f => h (x - 1) f (by omega) (by omega)
            · exact .put fun f => h x f (by omega) (by omega)
      have hd : Canvas.drawClusters start right y p x first (g :: gs) = fun c =>
          Canvas.drawClusters start right y p (x + Text.width g) false gs
            (Canvas.hide (x + 1) y (Text.width g - 1)
              (if first then c.put x y g p
              else if x = start then c.append x y g p
              else if Text.width g = 0 then c.append (x - 1) y g p
              else c.put x y g p)) := by
        funext c
        simp only [Canvas.drawClusters, if_neg hw]
      rw [hd]
      exact .seq (.seq hcluster hhide) hrest

theorem drawSpans (ss : List Span) {a : Area}
    (h : ∀ s ∈ ss, ∀ x f, a.x ≤ x → x < a.right → s.pen.Edit f → P x a.y f) :
    Edits P (Canvas.drawSpans a ss) := by
  induction ss generalizing a with
  | nil => exact .keep
  | cons s ss ih =>
    by_cases hw : a.width = 0
    · have hd : Canvas.drawSpans a (s :: ss) = fun c => c := by
        funext c
        simp [Canvas.drawSpans, hw]
      rw [hd]
      exact .keep
    · have hd : Canvas.drawSpans a (s :: ss) = fun c =>
          Canvas.drawSpans ⟨a.x + Text.width s.text.toList, a.y,
            a.width - Text.width s.text.toList, a.height⟩ ss
            (Canvas.drawClusters a.x a.right a.y s.pen a.x true (clustersOf s.text) c) := by
        funext c
        simp only [Canvas.drawSpans, if_neg hw]
      rw [hd]
      refine .seq ?_ (ih fun t ht x f hx hr => ?_)
      · exact .drawClusters (h s List.mem_cons_self) (by simp only [Area.right]; omega) _ (Nat.le_refl _)
          fun _ => rfl
      · refine h t (List.mem_cons_of_mem s ht) x f ?_ ?_ <;>
          simp only [Area.right] at hx hr ⊢ <;> omega

theorem drawFitted {y : Nat} (gs : List (List Char × Pen)) {x : Nat} (h : ∀ x f, P x y f) :
    Edits P (Canvas.drawFitted x y gs) := by
  induction gs generalizing x with
  | nil => exact .keep
  | cons g gs ih =>
    have hcluster : Edits P fun c => if Text.width g.1 = 0 then c else c.put x y g.1 g.2 := by
      split
      · exact .keep
      · exact .put fun f _ => h x f
    have hd : Canvas.drawFitted x y (g :: gs) = fun c =>
        Canvas.drawFitted (x + Text.width g.1) y gs
          (if Text.width g.1 = 0 then c else c.put x y g.1 g.2) := rfl
    rw [hd]
    exact .seq hcluster ih

theorem drawRow {a : Area} {centered : Bool} {spans : List Span} (h : ∀ x f, P x a.y f) :
    Edits P (Canvas.drawRow a centered spans) :=
  drawFitted _ h

theorem drawBox {a : Area} {p : Pen} {title : String} (hp : p.background = none)
    (h : ∀ x y (q : Pen) f, a.OnBorder x y → q.background = none → q.Edit f → P x y f) :
    Edits P (Canvas.drawBox a p title) := by
  by_cases ha : a.width = 0 ∨ a.height = 0
  · have hd : Canvas.drawBox a p title = fun c => c := by
      funext c
      simp only [Canvas.drawBox, if_pos ha]
    rw [hd]
    exact .keep
  · have across (y : Nat) (hy : y = a.y ∨ y = a.bottom - 1) : Edits P fun c =>
        (List.range a.width).foldl (fun c i => c.put (a.x + i) y ['─'] p) c :=
      .foldl fun i _ => .put fun f => h _ _ p f (.inr (.inr hy)) hp
    have down (x : Nat) (hx : x = a.x ∨ x = a.right - 1) : Edits P fun c =>
        (List.range a.height).foldl (fun c i => c.put x (a.y + i) ['│'] p) c :=
      .foldl fun i _ => .put fun f => h _ _ p f (hx.imp_right .inl) hp
    have corner (y : Nat) (g : Char) {x : Nat} (hx : x = a.x ∨ x = a.right - 1) :
        Edits P (Canvas.put x y [g] p) :=
      .put fun f => h _ _ p f (hx.imp_right .inl) hp
    have htitle (w : Nat) : Edits P fun c =>
        c.drawLine { x := a.x + 1, y := a.y, width := w, height := 1 } title :=
      .drawSpans _ fun s hs x f _ _ => h _ _ s.pen f (Or.inr (Or.inr (Or.inl rfl)))
        (by rw [List.mem_singleton.mp hs])
    have hedges := Edits.seq (.seq (.seq (down _ (.inl rfl)) (down _ (.inr rfl)))
      (across _ (.inl rfl))) (across _ (.inr rfl))
    have hcorners := Edits.seq (.seq (.seq (corner a.y '┌' (.inl rfl)) (corner a.y '┐' (.inr rfl)))
      (corner (a.bottom - 1) '└' (.inl rfl))) (corner (a.bottom - 1) '┘' (.inr rfl))
    have hbox := (hedges.seq hcorners).seq (htitle (min (Text.width title.toList) (a.width - 2)))
    refine Eq.mp (congrArg (Edits P) ?_) hbox
    funext c
    simp only [Canvas.drawBox, if_neg ha]

/-- Lines one below the other, from the `k`th row of the area on. -/
theorem drawLines {a : Area} (lines : List (List Span)) (k : Nat)
    (h : ∀ i spans, lines[i]? = some spans → ∀ s ∈ spans, ∀ x f, a.x ≤ x → x < a.right →
      s.pen.Edit f → P x (a.y + (k + i)) f) :
    Edits P fun c =>
      (lines.zipIdx k).foldl (fun c (spans, i) => c.drawSpans (a.row i) spans) c := by
  refine .foldl fun (spans, j) hj => .drawSpans spans fun s hs x f hx hr hf => ?_
  obtain ⟨i, rfl⟩ := Nat.exists_eq_add_of_le (List.le_snd_of_mem_zipIdx hj)
  exact h i spans (List.mk_add_mem_zipIdx_iff_getElem?.mp hj) s hs x f hx hr hf

end Edits

/-- Each line is as it would be on its own. -/
theorem agreeOn_drawLines {a : Area} {lines : List (List Span)} {i : Nat} {spans : List Span}
    (k : Nat) (h : lines[i]? = some spans) (c : Canvas) :
    AgreeOn (fun _ y => y = a.y + (k + i)) (c.drawSpans (a.row (k + i)) spans)
      ((lines.zipIdx k).foldl (fun c (spans, i) => c.drawSpans (a.row i) spans) c) := by
  induction lines generalizing k i c with
  | nil => simp at h
  | cons line lines ih =>
    cases i with
    | zero =>
      obtain rfl : line = spans := by simpa using h
      -- the lines below leave this one alone
      refine (Edits.drawLines (P := fun _ y _ => a.y + k < y) lines (k + 1) ?_).spares ?_ _
      · intro i _ _ s _ x f _ _ _
        omega
      · intro x y f hy
        omega
    | succ i =>
      have hline : Edits (fun _ y _ => y = a.y + k) (Canvas.drawSpans (a.row k) line) :=
        .drawSpans line fun _ _ _ _ _ _ _ => rfl
      have hspans : Edits (fun _ _ _ => True) (Canvas.drawSpans (a.row (k + (i + 1))) spans) :=
        .drawSpans spans fun _ _ _ _ _ _ _ => trivial
      have hrest := ih (k + 1) (by simpa using h) (c.drawSpans (a.row k) line)
      rw [Nat.add_assoc k 1 i, Nat.add_comm 1 i] at hrest
      refine (hspans.agree (hline.spares ?_ c)).trans hrest
      intro x y f hy
      omega

end Canvas
end Companions
