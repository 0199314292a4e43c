import Companions.App.Key

/-! What the keys and the rest of the program do to the search box, to the texts that wait and to
the copy of the snapshot. -/
namespace Companions

theorem Debouncer.mem_waiting_submit {now : Nat} {text : String} {d : Debouncer} {s : Submission}
    (h : s ∈ (d.submit now text).waiting) : s ∈ d.waiting ∨ s.text = text := by
  rcases List.mem_append.mp h with h | h
  · exact .inl h
  · obtain rfl := List.mem_singleton.mp h
    exact .inr rfl

variable {α : Type} {now : Nanos} {a b : App α} {p : Pressed α}

/-- The operation leaves the search text as it is, and orders nothing anew. -/
def Operation.keepsSearch : Operation → Bool
  | .reload | .setFilter _ | .setSort _ | .setGroup _ | .toggle _ | .access _ => true
  | .load _ | .search _ | .reorder _ => false

/-- The operation that an intent begins. -/
def Intent.operation? : Intent → Option Operation
  | .work (.operation op) => some op
  | .opened id => some (.access { companionId := id })
  | .work (.settle _) | .clearCache | .leaveSession => none

namespace App

/-- Search box, waiting texts and snapshot are the same. -/
structure Same (a b : App α) : Prop where
  mode : b.searchMode = a.searchMode
  input : b.searchInput = a.searchInput
  debouncer : b.surface.debouncer = a.surface.debouncer
  snapshot : b.snapshot = a.snapshot

theorem Same.refl (a : App α) : Same a a := ⟨rfl, rfl, rfl, rfl⟩

/-- What else happens to the application: a session, an event or a tick of the clock reaches it, the
terminal has another size, or it has been drawn. -/
inductive Aside (a : App α) : App α → Prop
  | hear (now : Nanos) (session : Session) : Aside a (a.applySession now session)
  | heed (now : Nanos) (e : AppEvent) : Aside a (a.handleEvent now e)
  | tick (now : Nanos) : Aside a (a.clearExpired now).2
  | resize (container : α) : Aside a { a with surface := a.surface.withContainer container }
  | drawn : Aside a { a with needsRedraw := false }

theorem Aside.same (h : Aside a b) : Same a b := by
  cases h with
  | hear now session =>
    unfold applySession
    split <;> exact ⟨rfl, rfl, rfl, rfl⟩
  | heed now e => rcases e with ⟨id, _ | _⟩ | task <;> exact ⟨rfl, rfl, rfl, rfl⟩
  | tick now =>
    unfold clearExpired
    split
    · split <;> exact ⟨rfl, rfl, rfl, rfl⟩
    · exact .refl a
  | resize => exact ⟨rfl, rfl, rfl, rfl⟩
  | drawn => exact ⟨rfl, rfl, rfl, rfl⟩

/-- Nor does any of this move the selection or bring up the help. -/
theorem Aside.spares (h : Aside a b) : b.selected = a.selected ∧ b.helpShown = a.helpShown := by
  cases h with
  | hear now session =>
    unfold applySession
    split <;> exact ⟨rfl, rfl⟩
  | heed now e => rcases e with ⟨id, _ | _⟩ | task <;> exact ⟨rfl, rfl⟩
  | tick now =>
    unfold clearExpired
    split
    · split <;> exact ⟨rfl, rfl⟩
    · exact ⟨rfl, rfl⟩
  | resize => exact ⟨rfl, rfl⟩
  | drawn => exact ⟨rfl, rfl⟩

/-- What a key does to the search box and to the texts that wait. -/
inductive Typed (now : Nanos) (a b : App α) : Prop
  | still (h : Same a b)
  /-- The box opens with the search text of the snapshot. -/
  | opens (ha : a.searchMode = false) (hb : b.searchMode = true)
      (hi : b.searchInput = a.snapshot.descriptor.search)
      (hd : b.surface.debouncer = a.surface.debouncer)
  /-- The text in the box is submitted. -/
  | edits (ha : a.searchMode = true) (hb : b.searchMode = true)
      (hd : b.surface.debouncer = a.surface.debouncer.submit now b.searchInput)
  /-- The box is shut, or was. -/
  | shut (hb : b.searchMode = false)
      (hd : b.surface.debouncer = a.surface.debouncer ∨
        b.surface.debouncer = a.surface.debouncer.cancel ∨
        ∃ text, b.surface.debouncer = a.surface.debouncer.submit now text)

/-- The text in the box after a key. -/
inductive Retyped (a : App α) : String → Prop
  | kept : Retyped a a.searchInput
  | copied (ha : a.searchMode = false) : Retyped a a.snapshot.descriptor.search
  | emptied : Retyped a ""
  | shortened : Retyped a (String.ofList a.searchInput.toList.dropLast)
  | lengthened (c : Char) (hroom : a.searchInput.utf8ByteSize < maxSearchLength) :
    Retyped a (a.searchInput.push c)

/-- What a key leads to. -/
structure Answers (now : Nanos) (a : App α) (p : Pressed α) : Prop where
  typed : Typed now a p.app
  text : Retyped a p.app.searchInput
  waits : ∀ s ∈ p.app.surface.debouncer.waiting,
    s ∈ a.surface.debouncer.waiting ∨ s.text = p.app.searchInput
  snapshot : p.app.snapshot = a.snapshot
  keeps : ∀ op ∈ p.intents.filterMap Intent.operation?, op.keepsSearch = true

theorem Answers.still (h : Same a p.app)
    (hk : ∀ op ∈ p.intents.filterMap Intent.operation?, op.keepsSearch = true) :
    Answers now a p := by
  refine ⟨.still h, ?_, ?_, h.snapshot, hk⟩
  · rw [h.input]
    exact .kept
  · rw [h.debouncer]
    exact fun s hs => .inl hs

theorem Answers.idle {quit : Bool} (h : Same a b) : Answers now a { app := b, quit } :=
  .still h (by simp)

theorem Answers.withStatus (h : Answers now a p) (text : String) :
    Answers now a (p.withStatus now text) := by
  obtain ⟨ht, hi, hw, hs, hk⟩ := h
  refine ⟨?_, hi, hw, hs, hk⟩
  cases ht with
  | still h => exact .still ⟨h.mode, h.input, h.debouncer, h.snapshot⟩
  | opens ha hb hi hd => exact .opens ha hb hi hd
  | edits ha hb hd => exact .edits ha hb hd
  | shut hb hd => exact .shut hb hd

theorem answers_pressOpen : Answers now a (a.pressOpen now) := by
  unfold pressOpen
  split
  · exact .idle (.refl a)
  · exact .still ⟨rfl, rfl, rfl, rfl⟩ (by simp [Intent.operation?, Operation.keepsSearch])

variable [Length α]

theorem same_moveSelection (delta : Int) (a : App α) : Same a (a.moveSelection delta) := by
  unfold moveSelection
  simp only
  split
  · exact .refl a
  · exact ⟨rfl, rfl, rfl, rfl⟩

theorem applySnapshot_box (snapshot : Snapshot) (a : App α) :
    (a.applySnapshot snapshot).snapshot = snapshot ∧
      (a.applySnapshot snapshot).searchMode = a.searchMode ∧
      (a.applySnapshot snapshot).searchInput = a.searchInput ∧
      (a.applySnapshot snapshot).surface.debouncer = a.surface.debouncer := by
  unfold applySnapshot
  simp only
  split <;> exact ⟨rfl, rfl, rfl, rfl⟩

/-- Only a search text and a filter concern the texts that wait. -/
theorem answers_dispatch {e : SurfaceEvent α} (hs : ∀ text, e ≠ .search text)
    (hf : ∀ filter, e ≠ .filter filter) : Answers now a (a.dispatch now e) := by
  cases e with
  | search text => exact (hs text rfl).elim
  | filter filter => exact (hf filter rfl).elim
  | scroll => exact .still ⟨rfl, rfl, rfl, rfl⟩ (by simp [dispatch, Surface.dispatch])
  | _ =>
    exact .still ⟨rfl, rfl, rfl, rfl⟩ (by
      simp [dispatch, Surface.dispatch, Intent.operation?, Operation.keepsSearch])

theorem answers_changeFilter (hm : a.searchMode = false) (filter : Filter) :
    Answers now a (a.changeFilter now filter) := by
  unfold changeFilter
  split
  · exact .idle (.refl a)
  · refine ⟨.shut hm (Or.inr (Or.inl rfl)), .kept, fun s hs => .inl hs, rfl, ?_⟩
    simp [dispatch, Surface.dispatch, Intent.operation?, Operation.keepsSearch]

theorem keeps_submitSearch (a : App α) :
    ∀ op ∈ (a.submitSearch now).intents.filterMap Intent.operation?, op.keepsSearch = true := by
  simp [submitSearch, dispatch, Surface.dispatch, Intent.operation?]

theorem answers_pressInSearch (hm : a.searchMode = true) (key : Key) :
    Answers now a (a.pressInSearch now key) := by
  unfold pressInSearch
  split
  · exact ⟨.shut rfl (Or.inr (Or.inr ⟨_, rfl⟩)), .emptied,
      fun _ => Debouncer.mem_waiting_submit, rfl, keeps_submitSearch _⟩
  · exact ⟨.shut rfl (Or.inl rfl), .kept, fun s hs => .inl hs, rfl, by simp⟩
  · exact ⟨.edits hm hm rfl, .shortened, fun _ => Debouncer.mem_waiting_submit, rfl,
      keeps_submitSearch _⟩
  · split
    · exact .idle ⟨rfl, rfl, rfl, rfl⟩
    · rename_i hroom
      exact ⟨.edits hm hm rfl, .lengthened _ (Nat.lt_of_not_le hroom),
        fun _ => Debouncer.mem_waiting_submit, rfl, keeps_submitSearch _⟩
  · exact .idle (.refl a)

theorem answers_pressFavorite (catalog : Catalog) :
    Answers now a (a.pressFavorite now catalog) := by
  unfold pressFavorite
  split
  · exact .idle (.refl a)
  · split
    · exact .idle ⟨rfl, rfl, rfl, rfl⟩
    · exact answers_dispatch nofun nofun

theorem answers_pressScene : Answers now a (a.pressScene now) := by
  unfold pressScene
  split <;> exact answers_dispatch nofun nofun

theorem answers_pressChar (hm : a.searchMode = false) (catalog : Catalog) (c : Char) :
    Answers now a (a.pressChar now catalog c) := by
  have hreload : Answers now a (a.dispatch now .reload) := answers_dispatch nofun nofun
  unfold pressChar
  split
  · exact .idle (.refl a)
  · exact .idle ⟨rfl, rfl, rfl, rfl⟩
  · exact .idle (same_moveSelection _ a)
  · exact .idle (same_moveSelection _ a)
  · exact .idle (same_moveSelection _ a)
  · exact .idle (same_moveSelection _ a)
  · exact answers_changeFilter hm _
  · exact answers_changeFilter hm _
  · exact answers_changeFilter hm _
  · have hsort : Answers now a (a.dispatch now (.sort a.snapshot.descriptor.sort.next)) :=
      answers_dispatch nofun nofun
    exact hsort.withStatus _
  · exact answers_pressScene
  · exact answers_pressFavorite catalog
  · exact answers_pressFavorite catalog
  · exact ⟨.opens hm rfl rfl rfl, .copied hm, fun s hs => .inl hs, rfl, by simp⟩
  · exact hreload
  · obtain ⟨ht, hi, hw, hs, hk⟩ := hreload.withStatus "Cache cleared, reloading"
    exact ⟨ht, hi, hw, hs, by simpa [Intent.operation?] using hk⟩
  · split
    · exact .still (.refl a) (by simp [Intent.operation?])
    · exact .idle ⟨rfl, rfl, rfl, rfl⟩
  · exact .idle (.refl a)

theorem press_answers (now : Nanos) (catalog : Catalog) (k : KeyPress) (a : App α) :
    Answers now a (a.press now catalog k) := by
  unfold press
  split
  · exact .idle (.refl a)
  · split
    · exact .idle ⟨rfl, rfl, rfl, rfl⟩
    · split
      · rename_i hm
        exact answers_pressInSearch hm k.key
      · rename_i hm
        have hm : a.searchMode = false := by simpa using hm
        split
        · exact answers_pressChar hm catalog _
        · exact .idle (same_moveSelection _ a)
        · exact .idle (same_moveSelection _ a)
        · exact .idle (same_moveSelection _ a)
        · exact .idle (same_moveSelection _ a)
        · exact .idle (same_moveSelection _ a)
        · exact .idle (same_moveSelection _ a)
        · exact answers_changeFilter hm _
        · exact answers_pressOpen
        · exact .idle (.refl a)
        · exact .idle (.refl a)
        · exact .idle (.refl a)

end App
end Companions
