import Companions.Proofs.SearchBox

/-! The limit on the text in the search box. It is told in characters and tested in bytes: no box
goes beyond it, but a box may be full with a quarter of the characters. -/
namespace Companions

namespace Text

/-- A character takes one to four bytes. -/
theorem bytes_bounds (s : String) : s.length ≤ s.utf8ByteSize ∧ s.utf8ByteSize ≤ 4 * s.length := by
  induction s using String.push_induction with
  | empty => exact ⟨Nat.zero_le _, Nat.zero_le _⟩
  | push s c ih =>
    have hpos := c.utf8Size_pos
    have hfour := c.utf8Size_le_four
    rw [String.length_push, String.utf8ByteSize_push]
    omega

theorem bytes_of_ascii {s : String} (h : ∀ c ∈ s.toList, c.val ≤ 127) :
    s.utf8ByteSize = s.length := by
  induction s using String.push_induction with
  | empty => rfl
  | push s c ih =>
    rw [String.toList_push] at h
    have hone : c.utf8Size = 1 := Char.utf8Size_eq_one_iff.mpr (h c (by simp))
    have hrest : s.utf8ByteSize = s.length := ih fun c hc => h c (by simp [hc])
    rw [String.length_push, String.utf8ByteSize_push, hone, hrest]

theorem bytes_replicate (n : Nat) (c : Char) :
    (String.ofList (List.replicate n c)).utf8ByteSize = n * c.utf8Size := by
  induction n with
  | zero => simp
  | succ n ih =>
    rw [List.replicate_succ', String.ofList_append, String.utf8ByteSize_append, ih, Nat.succ_mul]
    simp

theorem length_trim_le (s : String) : (trim s).length ≤ s.length := by
  have hsub : (trimChars s.toList).Sublist s.toList :=
    (List.rdropWhile_prefix isBlank _).sublist.trans (List.dropWhile_suffix isBlank).sublist
  rw [trim, String.length_ofList, ← String.length_toList]
  exact hsub.length_le

end Text

namespace App

variable {α : Type} {now : Nanos} {a b : App α} {p : Pressed α} {c : Char} {text : String}

/-- Keys go to the search box. -/
structure Typing (a : App α) : Prop where
  mode : a.searchMode = true
  help : a.helpShown = false

/-- A character is refused: the box stays as it is, nothing is begun, and the user is told. -/
structure Refused (now : Nanos) (a : App α) (p : Pressed α) : Prop where
  input : p.app.searchInput = a.searchInput
  surface : p.app.surface = a.surface
  intents : p.intents = []
  told : p.app.status = some ⟨"Search query too long (max 256 chars)", now⟩
  typing : p.app.Typing

/-- A character comes into the box, and the text is submitted. -/
structure Accepted (now : Nanos) (c : Char) (a : App α) (p : Pressed α) : Prop where
  input : p.app.searchInput = a.searchInput.push c
  debouncer : p.app.surface.debouncer = a.surface.debouncer.submit now (a.searchInput.push c)
  told : p.app.status = a.status
  typing : p.app.Typing

theorem Refused.not_accepted (h : Refused now a p) : ¬Accepted now c a p := by
  intro ha
  have hlength := congrArg String.length (h.input.symm.trans ha.input)
  rw [String.length_push] at hlength
  omega

theorem Retyped.length_le (h : Retyped a text) (ha : a.searchInput.length ≤ maxSearchLength)
    (hs : a.searchMode = false → a.snapshot.descriptor.search.length ≤ maxSearchLength) :
    text.length ≤ maxSearchLength := by
  cases h with
  | kept => exact ha
  | copied hm => exact hs hm
  | emptied => exact Nat.zero_le _
  | shortened =>
    rw [String.length_ofList, List.length_dropLast, String.length_toList]
    omega
  | lengthened c hroom =>
    -- The room is one of bytes, and no text has fewer bytes than characters.
    have hbytes := (Text.bytes_bounds a.searchInput).1
    rw [String.length_push]
    omega

@[simp] theorem helpShown_pressOpen (now : Nanos) (a : App α) :
    (a.pressOpen now).app.helpShown = a.helpShown := by
  unfold pressOpen
  split <;> rfl

/-- The help never lies over an open box. -/
def Apart (a : App α) : Prop := a.searchMode = true → a.helpShown = false

theorem Aside.apart (h : Aside a b) (ha : a.Apart) : b.Apart := by
  intro hm
  rw [h.same.mode] at hm
  exact h.spares.2.trans (ha hm)

variable [Length α]

theorem press_of_typing (h : a.Typing) (catalog : Catalog) {k : KeyPress}
    (hk : ¬(k.control ∧ k.key = .char 'c')) :
    a.press now catalog k = a.pressInSearch now k.key := by
  rw [press, if_neg hk, if_neg (by simp [h.help]), if_pos h.mode]

/-- What is typed is refused or accepted, by the bytes in the box. -/
theorem press_char (h : a.Typing) (now : Nanos) (catalog : Catalog) {control : Bool}
    (hc : ¬(control = true ∧ c = 'c')) :
    let p := a.press now catalog { key := .char c, control }
    (Refused now a p ↔ maxSearchLength ≤ a.searchInput.utf8ByteSize) ∧
      (Accepted now c a p ↔ a.searchInput.utf8ByteSize < maxSearchLength) := by
  intro p
  have hp : p = a.pressInSearch now (.char c) := press_of_typing h catalog (by simpa using hc)
  rw [pressInSearch] at hp
  split at hp
  · rename_i hfull
    have hrefused : Refused now a p := by
      rw [hp]
      exact ⟨rfl, rfl, rfl, rfl, h.mode, h.help⟩
    exact ⟨iff_of_true hrefused hfull, iff_of_false hrefused.not_accepted (not_lt.mpr hfull)⟩
  · rename_i hroom
    have haccepted : Accepted now c a p := by
      rw [hp]
      exact ⟨rfl, rfl, rfl, h.mode, h.help⟩
    exact ⟨iff_of_false (fun hr => hr.not_accepted haccepted) hroom,
      iff_of_true haccepted (not_le.mp hroom)⟩

section Help

@[simp] theorem helpShown_dispatch (now : Nanos) (e : SurfaceEvent α) (a : App α) :
    (a.dispatch now e).app.helpShown = a.helpShown := by
  cases e <;> rfl

@[simp] theorem helpShown_changeFilter (now : Nanos) (filter : Filter) (a : App α) :
    (a.changeFilter now filter).app.helpShown = a.helpShown := by
  unfold changeFilter
  split
  · rfl
  · exact helpShown_dispatch now _ a

@[simp] theorem helpShown_moveSelection (delta : Int) (a : App α) :
    (a.moveSelection delta).helpShown = a.helpShown := by
  unfold moveSelection
  simp only
  split <;> rfl

@[simp] theorem helpShown_pressFavorite (now : Nanos) (catalog : Catalog) (a : App α) :
    (a.pressFavorite now catalog).app.helpShown = a.helpShown := by
  unfold pressFavorite
  split
  · rfl
  · split
    · rfl
    · exact helpShown_dispatch now _ a

@[simp] theorem helpShown_pressScene (now : Nanos) (a : App α) :
    (a.pressScene now).app.helpShown = a.helpShown := by
  unfold pressScene
  split <;> exact helpShown_dispatch now _ a

@[simp] theorem helpShown_pressInSearch (now : Nanos) (key : Key) (a : App α) :
    (a.pressInSearch now key).app.helpShown = a.helpShown := by
  unfold pressInSearch submitSearch
  split
  · simp
  · rfl
  · simp
  · split
    · rfl
    · simp
  · rfl

/-- A letter that brings up the help opens no box. -/
theorem helpShown_pressChar (hm : a.searchMode = false) (now : Nanos) (catalog : Catalog)
    (c : Char) :
    (a.pressChar now catalog c).app.helpShown = a.helpShown ∨
      (a.pressChar now catalog c).app.searchMode = false := by
  unfold pressChar
  split <;> simp [hm, Pressed.withStatus, setStatus, apply_ite Pressed.app,
    apply_ite App.helpShown]

theorem apart_press (h : a.Apart) (catalog : Catalog) (k : KeyPress) :
    (a.press now catalog k).app.Apart := by
  unfold press
  split
  · exact h
  · split
    · exact fun _ => rfl
    · rename_i hhelp
      have hhelp : a.helpShown = false := by simpa using hhelp
      split
      · simp [Apart, hhelp]
      · rename_i hm
        have hm : a.searchMode = false := by simpa using hm
        cases k.key with
        | char c =>
          rcases helpShown_pressChar hm now catalog c with hkept | hshut
          · exact fun _ => hkept.trans hhelp
          · exact fun hopen => absurd hopen (by simp [hshut])
        | _ => simp [Apart, hhelp]

theorem apart_applySnapshot (h : a.Apart) (snapshot : Snapshot) :
    (a.applySnapshot snapshot).Apart := by
  unfold applySnapshot
  simp only
  split <;> exact h

end Help

end App

namespace Terminal

variable {α : Type} {k : Conduct} {t u : Terminal α}

/-- No text that is searched for, or comes into the box, has too many characters. -/
structure WithinLimit (t : Terminal α) : Prop where
  box : t.app.searchInput.length ≤ App.maxSearchLength
  snapshot : t.app.snapshot.descriptor.search.length ≤ App.maxSearchLength
  waiting : ∀ s ∈ t.debouncer.waiting, s.text.length ≤ App.maxSearchLength
  shown : t.traffic.searchText.length ≤ App.maxSearchLength

theorem withinLimit_initial (h : Initial t) : WithinLimit t := by
  obtain ⟨s, surface, session, hs, _, hw, rfl⟩ := h
  have hempty : s.searchText = "" ∧ s.catalog.published.descriptor.search = "" := by
    obtain ⟨_, _, _, _, _, _, rfl⟩ := hs
    exact ⟨rfl, rfl⟩
  refine ⟨Nat.zero_le _, ?_, ?_, ?_⟩
  · simp [hempty.2]
  · simp [debouncer, hw]
  · simp [hempty.1]

theorem WithinLimit.settle (h : WithinLimit t) (ticket : UInt64) :
    WithinLimit (t.settle ticket) := by
  refine ⟨h.box, h.snapshot, ?_, ?_⟩
  · rw [settle_debouncer]
    exact fun s hs => h.waiting s (List.mem_of_mem_filter hs)
  · unfold Terminal.settle
    simp only [Debouncer.decide_eq]
    cases hn : t.debouncer.newest?.filter fun s => s.ticket == ticket with
    | none => exact h.shown
    | some s =>
      have hs : s ∈ t.debouncer.waiting :=
        (Debouncer.mem_of_newest? (Option.filter_eq_some_iff.mp hn).1).1
      show (t.traffic.start (.search s.text)).searchText.length ≤ App.maxSearchLength
      rw [searchText_search]
      exact (Text.length_trim_le _).trans (h.waiting s hs)

section Steps

variable [Length α]

/-- A step while keys go to the search box. -/
def InSearch (k : Conduct) (t u : Terminal α) : Prop := t.app.Typing ∧ Step k t u

/-- Nothing but a key writes into the box. -/
theorem Step.retyped (h : Step k t u) : App.Retyped t.app u.app.searchInput := by
  cases h with
  | press key => exact (App.press_answers t.traffic.now t.traffic.catalog key t.app).text
  | take =>
    have hinput := (App.applySnapshot_box t.traffic.catalog.published t.app).2.2.1
    rw [Terminal.take, hinput]
    exact .kept
  | aside hb =>
    rw [hb.same.input]
    exact .kept
  | _ => exact .kept

theorem WithinLimit.step (h : WithinLimit t) (hk : Kept k t) (hs : Step k t u) : WithinLimit u := by
  have hbox := hs.retyped.length_le h.box fun _ => h.snapshot
  cases hs with
  | press key =>
    have ha := App.press_answers t.traffic.now t.traffic.catalog key t.app
    refine ⟨hbox, ?_, fun s hs => ?_, ?_⟩
    · have hsnapshot : (t.press key).app.snapshot = t.app.snapshot := ha.snapshot
      rw [hsnapshot]
      exact h.snapshot
    · rcases ha.waits s hs with hold | hnew
      · exact h.waiting s hold
      · rw [hnew]
        exact hbox
    · rw [searchText_press]
      exact h.shown
  | @run xs ys op hop =>
    -- Searches are begun by the debouncer alone, and all other operations keep the text.
    have hsearch : (t.traffic.start op).searchText = t.traffic.searchText :=
      Catalog.start_search t.traffic.now (hk.tasks op (by simp [hop]))
    exact { h with shown := by rw [hsearch]; exact h.shown }
  | settle => exact h.settle _
  | traffic hl hn =>
    have hsearch := (hl.noOrder hk.noOrder hn).2
    exact { h with shown := by rw [hsearch]; exact h.shown }
  | call => exact { h with }
  | take =>
    obtain ⟨-, -, -, hdebouncer⟩ := App.applySnapshot_box t.traffic.catalog.published t.app
    refine ⟨hbox, ?_, ?_, h.shown⟩
    · rw [(hk.step .take).copy rfl]
      exact h.shown
    · rw [debouncer, Terminal.take, hdebouncer]
      exact h.waiting
  | aside hb =>
    have hsame := hb.same
    refine ⟨hbox, ?_, ?_, h.shown⟩
    · rw [hsame.snapshot]
      exact h.snapshot
    · rw [debouncer, hsame.debouncer]
      exact h.waiting

theorem Step.apart (h : Step k t u) (ha : t.app.Apart) : u.app.Apart := by
  cases h with
  | press key => exact App.apart_press ha _ key
  | take => exact App.apart_applySnapshot ha _
  | aside hb => exact hb.apart ha
  | _ => exact ha

theorem withinLimit_reachable (h : Reachable k t) : WithinLimit t ∧ t.app.Apart := by
  obtain ⟨t₀, h₀, hr⟩ := h
  induction hr with
  | refl =>
    refine ⟨withinLimit_initial h₀, ?_⟩
    obtain ⟨_, _, _, _, _, _, rfl⟩ := h₀
    exact nofun
  | tail hr hs ih =>
    exact ⟨ih.1.step (kept_reachable ⟨t₀, h₀, hr⟩) hs, hs.apart ih.2⟩

theorem length_inSearch (h : Relation.ReflTransGen (InSearch k) t u)
    (hbox : t.app.searchInput.length ≤ App.maxSearchLength) :
    u.app.searchInput.length ≤ App.maxSearchLength := by
  induction h with
  | refl => exact hbox
  | tail _ hs ih => exact hs.2.retyped.length_le ih fun hm => absurd hs.1.mode (by simp [hm])

end Steps

/-- The search box opened, and a character of three bytes typed so often. -/
def typedMoons (n : Nat) : Terminal Float :=
  (fun t => t.press { key := .char '月' })^[n] (opened.press slash)

/-- The key does not quit. -/
theorem moon_typed : ¬(false = true ∧ '月' = 'c') := by simp

theorem typedMoons_facts (k : Conduct) {n : Nat} (hn : n ≤ 86) :
    Reachable k (typedMoons n) ∧ (typedMoons n).app.Typing ∧
      (typedMoons n).app.searchInput = String.ofList (List.replicate n '月') := by
  induction n with
  | zero => exact ⟨(reachable_opened k).step (.press slash), ⟨rfl, rfl⟩, rfl⟩
  | succ n ih =>
    obtain ⟨hreach, htyping, hbox⟩ := ih (by omega)
    have hnext : typedMoons (n + 1) = (typedMoons n).press { key := .char '月' } :=
      Function.iterate_succ_apply' _ _ _
    have hroom : (typedMoons n).app.searchInput.utf8ByteSize < App.maxSearchLength := by
      rw [hbox, Text.bytes_replicate, show Char.utf8Size '月' = 3 from rfl, App.maxSearchLength]
      omega
    have haccepted := (App.press_char htyping (typedMoons n).traffic.now
      (typedMoons n).traffic.catalog moon_typed).2.mpr hroom
    rw [hnext]
    refine ⟨hreach.step (.press _), haccepted.typing, haccepted.input.trans ?_⟩
    rw [hbox, List.replicate_succ', String.ofList_append]
    rfl

theorem typedMoons_sizes {n : Nat} (hn : n ≤ 86) :
    (typedMoons n).app.searchInput.length = n ∧
      (typedMoons n).app.searchInput.utf8ByteSize = 3 * n := by
  rw [(typedMoons_facts (fun _ _ _ _ => True) hn).2.2]
  refine ⟨by simp, ?_⟩
  rw [Text.bytes_replicate, Nat.mul_comm]
  rfl

/-- No box of the program has more than 256 characters, and none that begins within the limit goes
beyond it while keys go to it. What is typed is refused exactly if the box has 256 bytes or more,
which is when it has 256 characters, as the user is told, unless it has fewer that take so many
bytes. -/
theorem search_limit_in_bytes [Length α] (k : Conduct) :
    (∀ t : Terminal α, Reachable k t →
      t.app.searchInput.length ≤ 256 ∧ (t.app.searchMode = true → t.app.Typing)) ∧
    (∀ t u : Terminal α, t.app.searchInput.length ≤ 256 →
      Relation.ReflTransGen (InSearch k) t u → u.app.searchInput.length ≤ 256) ∧
    ∀ (a : App α) (now : Nanos) (catalog : Catalog) (c : Char) (control : Bool), a.Typing →
      a.searchInput.length ≤ 256 → ¬(control = true ∧ c = 'c') →
      let p := a.press now catalog { key := .char c, control }
      let box := a.searchInput
      (App.Refused now a p ↔ 256 ≤ box.utf8ByteSize) ∧
      (App.Accepted now c a p ↔ box.utf8ByteSize < 256) ∧
      ((App.Refused now a p ↔ box.length = 256) ↔
        box.utf8ByteSize < 256 ∨ box.length = 256) ∧
      ((∀ c ∈ box.toList, c.val ≤ 127) → (App.Refused now a p ↔ box.length = 256)) ∧
      (App.Refused now a p → 64 ≤ box.length) := by
  refine ⟨fun t ht => ?_, fun t u hbox hrun => length_inSearch hrun hbox, ?_⟩
  · obtain ⟨hlimit, hapart⟩ := withinLimit_reachable ht
    exact ⟨hlimit.box, fun hm => ⟨hm, hapart hm⟩⟩
  · intro a now catalog c control htyping hbox hc p box
    obtain ⟨hrefused, haccepted⟩ : (App.Refused now a p ↔ 256 ≤ box.utf8ByteSize) ∧
        (App.Accepted now c a p ↔ box.utf8ByteSize < 256) := App.press_char htyping now catalog hc
    obtain ⟨hlow, hhigh⟩ := Text.bytes_bounds box
    have hbox : box.length ≤ 256 := hbox
    refine ⟨hrefused, haccepted, ?_, fun hascii => ?_, fun hr => ?_⟩
    · rw [hrefused]
      omega
    · have hbytes := Text.bytes_of_ascii hascii
      rw [hrefused]
      omega
    · have hfull := hrefused.mp hr
      omega

/-- There is room for one more after 85, which take 255 bytes. -/
theorem search_limit_in_bytes_moons :
    let k : Conduct := fun _ _ _ _ => True
    let t := typedMoons 85
    let p := t.app.press t.traffic.now t.traffic.catalog { key := .char '月' }
    Reachable k t ∧ t.app.searchInput.length = 85 ∧ t.app.Typing ∧
      Relation.ReflTransGen (InSearch k) t (t.press { key := .char '月' }) ∧
      (t.press { key := .char '月' }).app.searchInput.length ≤ 256 ∧
      App.Accepted t.traffic.now '月' t.app p := by
  intro k t p
  obtain ⟨hreach, htyping, -⟩ := typedMoons_facts k (n := 85) (by decide)
  obtain ⟨hlength, hbytes⟩ := typedMoons_sizes (n := 85) (by decide)
  obtain ⟨hprogram, hkeys, hchar⟩ := search_limit_in_bytes (α := Float) k
  have hbox := (hprogram t hreach).1
  have hrun : Relation.ReflTransGen (InSearch k) t (t.press { key := .char '月' }) :=
    .single ⟨htyping, .press _⟩
  obtain ⟨-, haccepted, -⟩ :=
    hchar t.app t.traffic.now t.traffic.catalog '月' false htyping hbox moon_typed
  have hroom : t.app.searchInput.utf8ByteSize < 256 := by
    rw [hbytes]
    decide
  exact ⟨hreach, hlength, htyping, hrun, hkeys _ _ hbox hrun, haccepted.mpr hroom⟩

/-- After 86 there is not. -/
theorem refused_below_limit :
    ∃ t : Terminal Float, Reachable (fun _ _ _ _ => True) t ∧ t.app.Typing ∧
      t.app.searchInput.length = 86 ∧ App.Refused t.traffic.now t.app
        (t.app.press t.traffic.now t.traffic.catalog { key := .char '月' }) := by
  obtain ⟨hreach, htyping, -⟩ := typedMoons_facts (fun _ _ _ _ => True) (n := 86) le_rfl
  obtain ⟨hlength, hbytes⟩ := typedMoons_sizes (n := 86) le_rfl
  have hfull : App.maxSearchLength ≤ (typedMoons 86).app.searchInput.utf8ByteSize := by
    rw [hbytes]
    decide
  have hchar := App.press_char htyping (typedMoons 86).traffic.now
    (typedMoons 86).traffic.catalog moon_typed
  exact ⟨_, hreach, htyping, hlength, hchar.1.mpr hfull⟩

end Terminal
end Companions
