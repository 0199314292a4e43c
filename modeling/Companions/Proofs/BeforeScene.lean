import Companions.Proofs.LateReplies

/-! Which filter a list goes back to when its scene is given up: the one that the catalog took note
of last. A load takes the list to another filter without such a note. -/
namespace Companions

variable {k : Conduct} {s t : Traffic} {a : Event} {c : Catalog} {q : Quest}

namespace Catalog

/-- A quest is on show from its beginning. -/
theorem seek_view (now : Nanos) (h : c.Offers q) :
    (c.seek now q).1.shown.descriptor = q.view ∧ (c.seek now q).1.beforeScene = c.beforeScene := by
  have hs := seek_cases now h
  generalize c.seek now q = next at hs
  cases hs <;> exact ⟨rfl, rfl⟩

theorem start_view (now : Nanos) {op : Operation} (h : op.quest? c = some q) :
    (c.start now op).1.shown.descriptor = q.view ∧
      (c.start now op).1.beforeScene = op.wayBack c := by
  obtain ⟨ho, hs⟩ := start_of_quest? now h
  rw [hs]
  exact seek_view now (c := { c with beforeScene := op.wayBack c }) ho

theorem start_view_still (now : Nanos) {op : Operation} (h : op.quest? c = none) :
    (c.start now op).1.shown.descriptor = c.shown.descriptor ∧
      (c.start now op).1.beforeScene = c.beforeScene := by
  rcases start_of_quest?_none now h with ⟨id, rfl⟩ | ⟨r, w, hw, _⟩
  · have hs : c.start now (.toggle id) = c.beginToggle id := rfl
    rcases beginToggle_cases id c with ⟨out, hb⟩ | ⟨b, _, _, hb⟩ <;> rw [hs, hb] <;>
      exact ⟨rfl, rfl⟩
  · rw [hw]
    exact ⟨rfl, rfl⟩

/-- An accepted order shows the favorites. -/
theorem resume_view (now : Nanos) {w : Await} {reply : w.Reply} (h : w.quest? reply = some q) :
    (c.resume now w reply).1.shown.descriptor.filter = .favorite ∧
      (c.resume now w reply).1.beforeScene = .favorite := by
  cases w with
  | order =>
    cases reply with
    | error b => cases h
    | ok x =>
      have hs := seek_view now (q := .reordered)
        (c := { c with cache := c.cache.clear, beforeScene := .favorite }) (offers_of_load rfl)
      exact ⟨congrArg Descriptor.filter hs.1, hs.2⟩
  | _ => cases h

theorem resume_view_still (now : Nanos) {w : Await} {reply : w.Reply}
    (h : w.quest? reply = none) :
    (c.resume now w reply).1.shown.descriptor = c.shown.descriptor ∧
      (c.resume now w reply).1.beforeScene = c.beforeScene := by
  cases hw : w.ticket? with
  | some n =>
    have hl := (resume_landed now hw reply c).1
    generalize (c.resume now w reply).1 = d at hl
    cases hl <;> exact ⟨rfl, rfl⟩
  | none =>
    cases w with
    | page => cases hw
    | found => cases hw
    | favorite id =>
      cases hp : c.pendingFor? id with
      | none => simp [resume, settleToggle, hp]
      | some toggle =>
        cases reply with
        | ok f =>
          simp only [resume, settleToggle_ok hp]
          exact ⟨rfl, rfl⟩
        | error b =>
          simp only [resume, settleToggle_error hp]
          exact ⟨rfl, rfl⟩
    | order =>
      cases reply with
      | ok x => cases h
      | error b => exact ⟨rfl, rfl⟩
    | receipt => exact ⟨rfl, rfl⟩

end Catalog

/-- The filter on show. -/
def Traffic.filter (s : Traffic) : Filter := s.catalog.shown.descriptor.filter

/-- The catalog takes note of the filter on show before the event or after it. -/
def Event.notes (s : Traffic) : Event → Bool
  | .start (.setFilter filter) => filter ≠ .scene
  | .start (.setGroup none) => true
  | .start (.setGroup (some _)) => s.filter ≠ .scene
  | .land e => e.answer.any fun a => (e.await.quest? a.1).isSome
  | _ => false

/-- The filter that a load names, unless it is a scene's. -/
def Event.loads? : Event → Option Filter
  | .start (.load d) => if d.filter = .scene then none else some d.filter
  | _ => none

/-- The filters that a list has been through, those of scenes left out. -/
structure Trail where
  /-- The latest on show. -/
  latest : Filter := .all
  /-- The latest on show when the catalog took note of it last. -/
  noted : Filter := .all
  /-- The filter of the latest load since then. -/
  loaded : Option Filter := none

/-- An event has led from `s` to `t`. -/
def Trail.next (s : Traffic) (a : Event) (t : Traffic) (p : Trail) : Trail :=
  let latest := if t.filter = .scene then p.latest else t.filter
  if a.notes s then { latest, noted := latest }
  else { latest, noted := p.noted, loaded := a.loads? <|> p.loaded }

inductive Browsed (k : Conduct) : Traffic → Trail → Prop
  | initial {s : Traffic} (h : s.Initial) : Browsed k s {}
  | step {s t : Traffic} {a : Event} {p : Trail} (h : Browsed k s p) (hs : LateStep k s a t) :
      Browsed k t (p.next s a t)

/-- What a step does with the filter on show and with the one noted. -/
inductive Heads (s : Traffic) (a : Event) (t : Traffic) : Prop
  | stay (ht : t.filter = s.filter ∨ t.filter = .scene)
      (hb : t.catalog.beforeScene = s.catalog.beforeScene) (hn : a.notes s = false)
      (hl : a.loads? = none)
  | load (ht : t.filter ≠ .scene) (hb : t.catalog.beforeScene = s.catalog.beforeScene)
      (hn : a.notes s = false) (hl : a.loads? = some t.filter)
  | enter (hs : s.filter ≠ .scene) (ht : t.filter = .scene) (hb : t.catalog.beforeScene = s.filter)
      (hn : a.notes s = true)
  | note (ht : t.filter ≠ .scene) (hb : t.catalog.beforeScene = t.filter) (hn : a.notes s = true)

theorem Heads.start (op : Operation) (hb : s.catalog.beforeScene ≠ .scene) :
    Heads s (.start op) (s.start op) := by
  cases hq : op.quest? s.catalog with
  | none =>
    obtain ⟨hd, hw⟩ := Catalog.start_view_still s.now hq
    have ht : (s.start op).filter = s.filter := congrArg Descriptor.filter hd
    cases op with
    | toggle => exact .stay (Or.inl ht) hw rfl rfl
    | reorder => exact .stay (Or.inl ht) hw rfl rfl
    | access => exact .stay (Or.inl ht) hw rfl rfl
    | setGroup g => cases g <;> cases hq
    | _ => cases hq
  | some q =>
    obtain ⟨hd, hw⟩ := Catalog.start_view s.now hq
    have ht : (s.start op).filter = q.view.filter := congrArg Descriptor.filter hd
    cases op with
    | load d =>
      cases hq
      by_cases hf : d.filter = .scene
      · exact .stay (Or.inr (ht.trans hf)) hw rfl (by simp [Event.loads?, hf])
      · refine .load ?_ hw rfl ?_
        · rw [ht]
          exact hf
        · simp [Event.loads?, hf, ht]
    | setFilter f =>
      cases hq
      by_cases hf : f = .scene
      · exact .stay (Or.inr (ht.trans hf)) (hw.trans (if_pos hf)) (by simp [Event.notes, hf]) rfl
      · refine .note ?_ (hw.trans ((if_neg hf).trans ht.symm)) (by simp [Event.notes, hf])
        rw [ht]
        exact hf
    | setGroup g =>
      cases g with
      | none =>
        cases hq
        refine .note ?_ (hw.trans ht.symm) rfl
        rw [ht]
        exact hb
      | some id =>
        cases hq
        by_cases hf : s.filter = .scene
        · exact .stay (Or.inr ht) (hw.trans (if_pos hf)) (by simp [Event.notes, hf]) rfl
        · exact .enter hf ht (hw.trans (if_neg hf)) (by simp [Event.notes, hf])
    | toggle => cases hq
    | reorder => cases hq
    | access => cases hq
    | _ =>
      cases hq
      exact .stay (Or.inl ht) hw rfl rfl

theorem LateStep.heads (h : LateStep k s a t) (hb : s.catalog.beforeScene ≠ .scene) :
    Heads s a t := by
  cases a with
  | start op =>
    cases h with
    | step h =>
      cases h
      exact .start op hb
  | land e =>
    obtain ⟨_, reply, taken, ha, hc⟩ := h.land_catalog
    cases hq : e.await.quest? reply with
    | none =>
      obtain ⟨hd, hw⟩ := Catalog.resume_view_still (c := s.catalog) s.now hq
      rw [← hc] at hd hw
      exact .stay (Or.inl (congrArg Descriptor.filter hd)) hw (by simp [Event.notes, ha, hq]) rfl
    | some q =>
      obtain ⟨hd, hw⟩ := Catalog.resume_view (c := s.catalog) s.now hq
      rw [← hc] at hd hw
      refine .note ?_ (hw.trans hd.symm) (by simp [Event.notes, ha, hq])
      unfold Traffic.filter
      rw [hd]
      exact Filter.noConfusion
  | _ =>
    cases h with
    | step h =>
      cases h
      exact .stay (Or.inl rfl) rfl rfl rfl

/-- How the trail stands to the catalog. -/
structure Trailed (s : Traffic) (p : Trail) : Prop where
  noted : s.catalog.beforeScene = p.noted
  notScene : p.noted ≠ .scene
  latest : p.latest = p.loaded.getD p.noted
  shown : s.filter ≠ .scene → p.latest = s.filter

variable {p : Trail}

theorem trailed_step (h : Trailed s p) (hs : LateStep k s a t) : Trailed t (p.next s a t) := by
  have hb : s.catalog.beforeScene ≠ .scene := h.noted ▸ h.notScene
  cases hs.heads hb with
  | stay ht hb hn hl =>
    have hlatest : (if t.filter = .scene then p.latest else t.filter) = p.latest := by
      split
      · rfl
      · rename_i hne
        rcases ht with ht | ht
        · rw [ht]
          exact (h.shown (ht ▸ hne)).symm
        · exact absurd ht hne
    simp only [Trail.next, hlatest, hn, hl]
    refine ⟨hb.trans h.noted, h.notScene, h.latest, fun hne => ?_⟩
    rcases ht with ht | ht
    · rw [ht]
      exact h.shown (ht ▸ hne)
    · exact absurd ht hne
  | load ht hb hn hl =>
    simp only [Trail.next, if_neg ht, hn, hl]
    exact ⟨hb.trans h.noted, h.notScene, rfl, fun _ => rfl⟩
  | enter hs ht hb hn =>
    simp only [Trail.next, if_pos ht, hn]
    have hlatest := h.shown hs
    exact ⟨hb.trans hlatest.symm, hlatest ▸ hs, rfl, fun hne => absurd ht hne⟩
  | note ht hb hn =>
    simp only [Trail.next, if_neg ht, hn]
    exact ⟨hb, ht, rfl, fun _ => rfl⟩

theorem trailed_browsed (h : Browsed k s p) : Trailed s p := by
  induction h with
  | initial h =>
    obtain ⟨_, _, _, _, _, _, rfl⟩ := h
    exact ⟨rfl, by decide, rfl, fun _ => rfl⟩
  | step _ hs ih => exact trailed_step ih hs

/-- When its group is given up, a list keeps its order and its text, and goes back to the filter
noted last. That is the latest on show but for scenes, unless a load has named another one since. -/
theorem group_given_up (h : Browsed k s p) :
    (s.start (.setGroup none)).catalog.shown.descriptor =
      { filter := p.noted
        group := none
        sort := s.catalog.shown.descriptor.sort
        search := s.catalog.shown.descriptor.search } ∧
    p.noted ≠ .scene ∧
    (s.filter ≠ .scene → p.latest = s.filter) ∧
    (p.noted = p.latest ↔ p.loaded = none ∨ p.loaded = some p.noted) := by
  have ht := trailed_browsed h
  have hq : Operation.quest? s.catalog (.setGroup none) = some _ := rfl
  refine ⟨?_, ht.notScene, ht.shown, ?_⟩
  · rw [← ht.noted]
    exact (Catalog.start_view s.now hq).1
  · rw [ht.latest]
    cases p.loaded with
    | none => simp
    | some f => simp [eq_comm]

/-- A tab, a search and a scene, which is given up while the replies are still under way. -/
theorem group_given_up_recent :
    ∃ s p, Browsed (fun _ _ _ _ => True) s p ∧ s.filter = .scene ∧ p.latest = .recent ∧
      p.loaded = none ∧ (s.start (.setGroup none)).catalog.shown.descriptor =
        { filter := .recent, group := none, sort := .frequency, search := "ann" } := by
  have h : Browsed (fun _ _ _ _ => True) (.fresh ∅) {} := .initial (Traffic.initial_fresh ∅)
  have h := h.step (.step (.start _ (.setFilter .recent)))
  have h := h.step (.step (.start _ (.search "ann")))
  have h := h.step (.step (.start _ (.setGroup (some 9))))
  exact ⟨_, _, h, rfl, rfl, rfl, (group_given_up h).1⟩

/-- A load takes the list to the favorites, and another to a scene. Giving up the scene leads past
the favorites. -/
theorem group_gives_up_loaded :
    ∃ s p, Browsed (fun _ _ _ _ => True) s p ∧ s.filter = .scene ∧ p.latest = .favorite ∧
      (s.start (.setGroup none)).filter = .all := by
  have h : Browsed (fun _ _ _ _ => True) (.fresh ∅) {} := .initial (Traffic.initial_fresh ∅)
  have h := h.step (.step (.start _ (.load { filter := .favorite })))
  have h := h.step (.step (.start _ (.load { filter := .scene, group := some 7 })))
  exact ⟨_, _, h, rfl, rfl, rfl⟩

end Companions
