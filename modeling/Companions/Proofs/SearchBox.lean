import Companions.Proofs.BeforeScene
import Companions.Proofs.Keys
import Companions.Proofs.Publications
import Companions.Proofs.QuietWindow
import Mathlib.Data.List.DropRight

/-! The search box and the list on show. What is typed is searched for after a pause; until then the
box runs ahead of the list. A box that is opened takes the search text of the snapshot at hand, and
that is not always the text asked for last. -/
namespace Companions

section Trimming

theorem Text.trimStart_trimChars (cs : List Char) :
    Text.trimStart (Text.trimChars cs) = Text.trimChars cs := by
  have hbegins : Text.trimChars cs <+: Text.trimStart cs := List.rdropWhile_prefix _ _
  cases h : Text.trimChars cs with
  | nil => rfl
  | cons c rest =>
    obtain ⟨more, hmore⟩ := hbegins
    rw [h, List.cons_append] at hmore
    have hc : Text.isBlank c = false := by
      have hhead := List.head?_dropWhile_not Text.isBlank cs
      simpa [show cs.dropWhile Text.isBlank = c :: (rest ++ more) from hmore.symm] using hhead
    exact List.dropWhile_cons_of_neg (by simp [hc])

theorem Text.trim_trim (s : String) : Text.trim (Text.trim s) = Text.trim s := by
  have hend : ∀ cs, Text.trimEnd cs = cs.rdropWhile Text.isBlank := fun _ => rfl
  rw [Text.trim, Text.trim, String.toList_ofList, Text.trimChars, Text.trimStart_trimChars,
    Text.trimChars, hend, hend, List.rdropWhile_idempotent]

end Trimming

section SearchText

variable {k : Conduct} {s t : Traffic} {a : Event} {c : Catalog} {op : Operation}

/-- The search text of the list on show. -/
def Traffic.searchText (s : Traffic) : String := s.catalog.shown.descriptor.search

/-- No order is under way. -/
def Traffic.NoOrder (s : Traffic) : Prop := ∀ e ∈ s.errands, e.await ≠ .order

theorem Await.quest?_of_ne_order {w : Await} (h : w ≠ .order) (reply : w.Reply) :
    w.quest? reply = none := by
  cases w <;> first | rfl | exact (h rfl).elim

theorem Catalog.start_search (now : Nanos) (h : op.keepsSearch = true) :
    (c.start now op).1.shown.descriptor.search = c.shown.descriptor.search := by
  cases hq : op.quest? c with
  | none => rw [(start_view_still now hq).1]
  | some q =>
    rw [(start_view now hq).1]
    cases op with
    | load d => cases h
    | search text => cases h
    | setGroup group => cases group <;> cases hq <;> rfl
    | _ => cases hq <;> rfl

theorem Catalog.start_asks (now : Nanos) (h : ∀ ps, op ≠ .reorder ps) {r : Request} {w : Await}
    (hs : (c.start now op).2 = .asks r w) : w ≠ .order := by
  cases hq : op.quest? c with
  | some q =>
    obtain ⟨ho, hf⟩ := start_of_quest? now hq
    have hseek := seek_cases now (c := { c with beforeScene := op.wayBack c }) ho
    rw [hf] at hs
    generalize Catalog.seek now q _ = next at hs hseek
    cases hseek with
    | hit => cases hs
    | ask =>
      cases hs
      unfold awaitFor
      split <;> nofun
  | none =>
    cases op with
    | toggle id =>
      have hb : (c.beginToggle id).2 = .asks r w := hs
      rcases beginToggle_cases id c with ⟨out, he⟩ | ⟨b, _, _, he⟩ <;> rw [he] at hb <;> cases hb
      nofun
    | access record => cases hs; nofun
    | reorder ps => exact (h ps rfl).elim
    | setGroup group => cases group <;> cases hq
    | _ => cases hq

theorem Catalog.resume_ends (now : Nanos) {w : Await} (h : w ≠ .order) (reply : w.Reply) :
    ∃ out, (c.resume now w reply).2 = .ends out := by
  cases w with
  | order => exact (h rfl).elim
  | _ => exact ⟨_, rfl⟩

theorem Traffic.NoOrder.start (h : s.NoOrder) (ho : ∀ ps, op ≠ .reorder ps) :
    (s.start op).NoOrder := by
  intro e he
  rcases List.mem_append.mp he with he | he
  · exact h e he
  · cases hp : (s.catalog.start s.now op).2 with
    | ends out =>
      rw [hp] at he
      cases he
    | asks r w =>
      rw [hp] at he
      obtain rfl := List.mem_singleton.mp he
      exact Catalog.start_asks s.now ho hp

/-- Without an order under way, what comes from the backend leaves the search text as it is. -/
theorem LateStep.noOrder (h : LateStep k s a t) (hs : s.NoOrder) (hn : ∀ op, a ≠ .start op) :
    t.NoOrder ∧ t.searchText = s.searchText := by
  cases a with
  | start op => exact (hn op rfl).elim
  | land e =>
    obtain ⟨xs, ys, reply, taken, he, -, rfl⟩ := h.landed
    have hw : e.await ≠ .order := hs e (by simp [he])
    have hq := Await.quest?_of_ne_order hw reply
    obtain ⟨out, hout⟩ := Catalog.resume_ends (c := s.catalog) s.now hw reply
    refine ⟨fun e' he' => ?_, congrArg Descriptor.search (Catalog.resume_view_still s.now hq).1⟩
    simp only [Traffic.land, Traffic.proceed, hout, Progress.errands, List.append_nil] at he'
    exact hs e' (mem_of_drop he e' he')
  | answer e =>
    cases h with
    | step h =>
      cases h with
      | answer he _ _ =>
        refine ⟨fun e' he' => ?_, rfl⟩
        rcases mem_of_replace he e' he' with hm | rfl
        · exact hs e' hm
        · exact hs e (by simp [he])
  | _ =>
    cases h with
    | step h => cases h; exact ⟨hs, rfl⟩

end SearchText

/-- How the search box was opened. -/
structure Opening where
  /-- The text that it was opened with. -/
  copied : String
  /-- The text asked for last. -/
  sought : String
  /-- No text waited, and the latest snapshot had been taken. -/
  calm : Bool

/-- The application and its catalog in traffic. -/
structure Terminal (α : Type) where
  app : App α
  traffic : Traffic
  /-- Operations that have been begun and have not run yet. -/
  tasks : List Operation := []
  /-- The number of the snapshot taken last. -/
  taken : Nat := 0
  /-- How many texts have been submitted or given up. -/
  calls : Nat := 0
  /-- How the box was opened, until the text in it is edited or the box is shut. -/
  opening : Option Opening := none

/-- The pages held are given up. -/
def Intent.clears : Intent → Bool
  | .clearCache => true
  | .work _ | .leaveSession | .opened _ => false

namespace Terminal

variable {α : Type} {k : Conduct} {t u : Terminal α}

def debouncer (t : Terminal α) : Debouncer := t.app.surface.debouncer

/-- The text asked for last: one that waits, or else that of the list on show. -/
def sought (t : Terminal α) : String :=
  match t.debouncer.newest? with
  | some s => Text.trim s.text
  | none => t.traffic.searchText

/-- The latest snapshot has been taken. -/
def UpToDate (t : Terminal α) : Prop := t.taken = t.traffic.catalog.publications

instance (t : Terminal α) : Decidable t.UpToDate := inferInstanceAs (Decidable (_ = _))

/-- A text that waits decides. -/
def settle (ticket : UInt64) (t : Terminal α) : Terminal α :=
  let decided := t.debouncer.decide ticket
  { t with
    app := { t.app with surface := { t.app.surface with debouncer := decided.2 } }
    traffic :=
      match decided.1 with
      | some text => t.traffic.start (.search text)
      | none => t.traffic }

/-- How the box stands after a key. -/
def openingAfter (b : App α) (t : Terminal α) : Option Opening :=
  if b.searchMode = false then none
  else if t.app.searchMode = false then
    some ⟨b.searchInput, t.sought, t.debouncer.newest?.isNone && decide t.UpToDate⟩
  else if b.surface.debouncer.latest = t.debouncer.latest then t.opening
  else none

section Steps

variable [Length α]

/-- A key is pressed. What it begins runs later; a session that is left is told to the catalog by
its follower. -/
def press (key : KeyPress) (t : Terminal α) : Terminal α :=
  let p := t.app.press t.traffic.now t.traffic.catalog key
  { t with
    app := p.app
    traffic := if p.intents.any Intent.clears then t.traffic.keepOnly [] else t.traffic
    tasks := t.tasks ++ p.intents.filterMap Intent.operation?
    calls := if p.app.surface.debouncer.latest = t.debouncer.latest then t.calls else t.calls + 1
    opening := t.openingAfter p.app }

def take (t : Terminal α) : Terminal α :=
  { t with
    app := t.app.applySnapshot t.traffic.catalog.published
    taken := t.traffic.catalog.publications }

inductive Step (k : Conduct) (t : Terminal α) : Terminal α → Prop
  | press (key : KeyPress) : Step k t (t.press key)
  /-- An operation runs its first section. -/
  | run {xs ys : List Operation} {op : Operation} (h : t.tasks = xs ++ op :: ys) :
      Step k t { t with tasks := xs ++ ys, traffic := t.traffic.start op }
  /-- The window of a text is over. -/
  | settle {s : Submission} (hs : s ∈ t.debouncer.waiting) (hd : s.due ≤ t.traffic.now) :
      Step k t (t.settle s.ticket)
  /-- The backend answers, an answer arrives, time passes, or pages are given up. -/
  | traffic {a : Event} {s : Traffic} (h : LateStep k t.traffic a s) (hn : ∀ op, a ≠ .start op) :
      Step k t { t with traffic := s }
  /-- The follower begins a reload, or the program its first one. -/
  | call : Step k t { t with tasks := t.tasks ++ [.reload] }
  | take : Step k t t.take
  | aside {b : App α} (h : App.Aside t.app b) : Step k t { t with app := b }

/-- Before the first key. -/
def Initial (t : Terminal α) : Prop :=
  ∃ s surface session, s.Initial ∧ surface.debouncer.latest = 0 ∧ surface.debouncer.waiting = [] ∧
    t = { app := { surface, snapshot := s.catalog.published, session }, traffic := s }

def Reachable (k : Conduct) (t : Terminal α) : Prop :=
  ∃ t₀, Initial t₀ ∧ Relation.ReflTransGen (Step k) t₀ t

theorem Reachable.step (h : Reachable k t) (hs : Step k t u) : Reachable k u := by
  obtain ⟨t₀, h₀, hr⟩ := h
  exact ⟨t₀, h₀, hr.tail hs⟩

end Steps

/-- What the program keeps at all times. -/
structure Kept (k : Conduct) (t : Terminal α) : Prop where
  traffic : LateReachable k t.traffic
  noOrder : t.traffic.NoOrder
  tasks : ∀ op ∈ t.tasks, op.keepsSearch = true
  trimmed : Text.trim t.traffic.searchText = t.traffic.searchText
  taken_le : t.taken ≤ t.traffic.catalog.publications
  copy : t.UpToDate → t.app.snapshot.descriptor.search = t.traffic.searchText
  calm : ∀ o ∈ t.opening, o.calm = true → Text.trim o.copied = o.sought

/-- A step of the catalog with its backend. -/
theorem Kept.proceed {a : Event} {s : Traffic} (h : Kept k t) (hl : LateStep k t.traffic a s)
    (hn : s.NoOrder) (ht : Text.trim s.searchText = s.searchText) :
    Kept k { t with traffic := s } := by
  have hsent := hl.presents.sent
  refine { h with
    traffic := h.traffic.step hl, noOrder := hn, trimmed := ht, taken_le := ?_, copy := ?_ }
  · have := h.taken_le
    rcases hsent with ⟨hsame, -⟩ | hnext <;> show t.taken ≤ s.catalog.publications <;> omega
  · intro hu
    have hu : t.taken = s.catalog.publications := hu
    rcases hsent with ⟨hsame, hshown⟩ | hnext
    · have hsearch : s.searchText = t.traffic.searchText :=
        congrArg (fun n : Snapshot => n.descriptor.search) hshown
      rw [hsearch]
      exact h.copy (hu.trans hsame)
    · have := h.taken_le
      omega

theorem searchText_start (s : Traffic) (op : Operation) :
    (s.start op).searchText = (s.catalog.start s.now op).1.shown.descriptor.search := rfl

theorem searchText_search (s : Traffic) (text : String) :
    (s.start (.search text)).searchText = Text.trim text := by
  have hq : (Operation.search text).quest? s.catalog =
      some ⟨{ s.catalog.shown.descriptor with search := Text.trim text },
        Text.trim text ≠ ""⟩ := rfl
  rw [searchText_start, (Catalog.start_view s.now hq).1]

theorem settle_debouncer (ticket : UInt64) (t : Terminal α) : (t.settle ticket).debouncer =
    { t.debouncer with waiting := t.debouncer.waiting.filter fun s => s.ticket != ticket } :=
  congrArg Prod.snd Debouncer.decide_eq

/-- The text asked for last is searched for, or waits on. -/
theorem sought_settle (ticket : UInt64) (t : Terminal α) : (t.settle ticket).sought = t.sought := by
  have ht : (t.settle ticket).traffic.searchText =
      match t.debouncer.newest?.filter fun s => s.ticket == ticket with
      | some s => Text.trim s.text
      | none => t.traffic.searchText := by
    unfold settle
    simp only [Debouncer.decide_eq]
    cases t.debouncer.newest?.filter fun s => s.ticket == ticket with
    | none => rfl
    | some s => exact searchText_search t.traffic s.text
  rw [sought, sought, settle_debouncer, ht,
    Debouncer.newest?_filter (d := t.debouncer) (· != ticket)]
  cases t.debouncer.newest? with
  | none => rfl
  | some s => by_cases hs : s.ticket = ticket <;> simp [Option.filter_some, hs]

theorem Kept.settle (h : Kept k t) (ticket : UInt64) : Kept k (t.settle ticket) := by
  unfold Terminal.settle
  obtain ⟨text?, debouncer⟩ := t.debouncer.decide ticket
  cases text? with
  | none => exact { h with }
  | some text =>
    have hs := h.proceed (.step (.start t.traffic (.search text))) (h.noOrder.start nofun)
      (by rw [searchText_search, Text.trim_trim])
    exact { hs with }

/-- An operation that keeps the search text runs. -/
theorem Kept.run {op : Operation} (h : Kept k t) (ho : op.keepsSearch = true) :
    Kept k { t with traffic := t.traffic.start op } := by
  have hsearch : (t.traffic.start op).searchText = t.traffic.searchText :=
    Catalog.start_search t.traffic.now ho
  have horder : ∀ ps, op ≠ .reorder ps := by
    rintro ps rfl
    cases ho
  exact h.proceed (.step (.start t.traffic op)) (h.noOrder.start horder)
    (by rw [hsearch, h.trimmed])

/-- While fewer than 2⁶⁴ texts have been submitted or given up, the text asked for last is the one
in the box, or still the one asked for when the box was opened. -/
structure Asked (t : Terminal α) : Prop where
  numbered : Debouncer.Numbered t.calls t.debouncer
  opened : t.app.searchMode = true → ∀ o ∈ t.opening,
    t.app.searchInput = o.copied ∧ o.sought = t.sought
  edited : t.app.searchMode = true → t.opening = none → Text.trim t.app.searchInput = t.sought

theorem sought_congr (hd : u.debouncer = t.debouncer)
    (ht : u.traffic.searchText = t.traffic.searchText) : u.sought = t.sought := by
  rw [sought, sought, hd, ht]

theorem Asked.congr (h : Asked t) (hm : u.app.searchMode = t.app.searchMode)
    (hi : u.app.searchInput = t.app.searchInput) (hd : u.debouncer = t.debouncer)
    (hc : u.calls = t.calls) (ho : t.app.searchMode = true → u.opening = t.opening)
    (ht : u.traffic.searchText = t.traffic.searchText) : Asked u := by
  have hs := sought_congr hd ht
  refine ⟨?_, fun hu => ?_, fun hu => ?_⟩
  · rw [hc, hd]
    exact h.numbered
  · rw [hm] at hu
    rw [ho hu, hi, hs]
    exact h.opened hu
  · rw [hm] at hu
    rw [ho hu, hi, hs]
    exact h.edited hu

theorem Asked.settle (h : Asked t) (ticket : UInt64) : Asked (t.settle ticket) := by
  refine ⟨?_, ?_, ?_⟩
  · rw [settle_debouncer]
    exact h.numbered.filter _
  · rw [sought_settle]
    exact h.opened
  · rw [sought_settle]
    exact h.edited

theorem kept_initial (h : Initial t) : Kept k t := by
  obtain ⟨s, surface, session, hs, _, _, rfl⟩ := h
  have hempty : s.errands = [] ∧ s.searchText = "" ∧ s.catalog.published = s.catalog.shown := by
    obtain ⟨_, _, _, _, _, _, rfl⟩ := hs
    exact ⟨rfl, rfl, rfl⟩
  obtain ⟨herrands, hsearch, hshown⟩ := hempty
  refine ⟨⟨s, hs, .refl⟩, ?_, by simp, ?_, Nat.zero_le _, fun _ => ?_, by simp⟩
  · simp [Traffic.NoOrder, herrands]
  · rw [hsearch]
    decide
  · rw [hshown]
    rfl

theorem asked_initial (h : Initial t) : Asked t := by
  obtain ⟨s, surface, session, _, hl, hw, rfl⟩ := h
  refine ⟨⟨hl, ?_, ?_⟩, nofun, nofun⟩
  · simp [debouncer, hw]
  · simp [debouncer, hw]

section Steps

variable [Length α]

theorem searchText_press (key : KeyPress) (t : Terminal α) :
    (t.press key).traffic.searchText = t.traffic.searchText := by
  unfold press
  simp only
  split <;> rfl

/-- What a key does, with the record of how the box was opened. -/
inductive Typed (t u : Terminal α) : Prop
  | still (ha : App.Same t.app u.app) (hc : u.calls = t.calls)
      (ho : t.app.searchMode = true → u.opening = t.opening)
      (hn : t.app.searchMode = false → u.opening = none)
  | opens (hi : u.app.searchInput = t.app.snapshot.descriptor.search)
      (hd : u.debouncer = t.debouncer) (hc : u.calls = t.calls)
      (ho : u.opening = some ⟨u.app.searchInput, t.sought,
        t.debouncer.newest?.isNone && decide t.UpToDate⟩)
  | edits (hd : u.debouncer = t.debouncer.submit t.traffic.now u.app.searchInput)
      (hc : u.calls = t.calls + 1) (ho : u.opening = none)
  | shut (hm : u.app.searchMode = false) (hd : u.debouncer = t.debouncer ∧ u.calls = t.calls ∨
      u.calls = t.calls + 1 ∧ (u.debouncer = t.debouncer.cancel ∨
        ∃ text, u.debouncer = t.debouncer.submit t.traffic.now text)) (ho : u.opening = none)

theorem press_typed (key : KeyPress) (t : Terminal α) : Typed t (t.press key) := by
  have ha := (App.press_answers t.traffic.now t.traffic.catalog key t.app).typed
  have hcalls : (t.press key).calls =
      if (t.press key).debouncer.latest = t.debouncer.latest then t.calls else t.calls + 1 := rfl
  have hopen : (t.press key).opening = t.openingAfter (t.press key).app := rfl
  have happ : (t.press key).app = (t.app.press t.traffic.now t.traffic.catalog key).app := rfl
  rw [← happ] at ha
  generalize t.press key = u at *
  have hsame : u.debouncer = t.debouncer → u.calls = t.calls := by
    intro hd
    rw [hcalls, hd, if_pos rfl]
  have hnext : u.debouncer.latest = t.debouncer.latest + 1 → u.calls = t.calls + 1 := by
    intro hl
    rw [hcalls, hl, if_neg (succ_ne _)]
  cases ha with
  | still h =>
    refine .still h (hsame h.debouncer) (fun hm => ?_) fun hm => ?_
    · have hl : u.app.surface.debouncer.latest = t.debouncer.latest := by rw [h.debouncer]; rfl
      simp [hopen, openingAfter, h.mode, hm, hl]
    · simp [hopen, openingAfter, h.mode, hm]
  | opens hm hm' hi hd =>
    refine .opens hi hd (hsame hd) ?_
    simp [hopen, openingAfter, hm, hm']
  | edits hm hm' hd =>
    have hl : u.app.surface.debouncer.latest = t.debouncer.latest + 1 := by rw [hd]; rfl
    refine .edits hd (hnext hl) ?_
    rw [hopen, openingAfter, if_neg (by simp [hm']), if_neg (by simp [hm]), hl,
      if_neg (succ_ne _)]
  | shut hm hd =>
    refine .shut hm ?_ (by simp [hopen, openingAfter, hm])
    rcases hd with hd | hd | ⟨text, hd⟩
    · exact Or.inl ⟨hd, hsame hd⟩
    · exact Or.inr ⟨hnext (congrArg Debouncer.latest hd), Or.inl hd⟩
    · exact Or.inr ⟨hnext (congrArg Debouncer.latest hd), Or.inr ⟨text, hd⟩⟩

/-- A box opened in calm shows the text asked for. -/
theorem Kept.calm_press (h : Kept k t) (key : KeyPress) :
    ∀ o ∈ (t.press key).opening, o.calm = true → Text.trim o.copied = o.sought := by
  cases press_typed key t with
  | still _ _ ho hn =>
    cases hm : t.app.searchMode with
    | true =>
      rw [ho hm]
      exact h.calm
    | false => simp [hn hm]
  | opens hi _ _ ho =>
    rw [ho]
    rintro o ⟨⟩ hcalm
    simp only [Bool.and_eq_true, Option.isNone_iff_eq_none, decide_eq_true_eq] at hcalm
    rw [hi, h.copy hcalm.2, sought, hcalm.1]
    exact h.trimmed
  | edits _ _ ho => simp [ho]
  | shut _ _ ho => simp [ho]

theorem Kept.press (h : Kept k t) (key : KeyPress) : Kept k (t.press key) := by
  have ha := App.press_answers t.traffic.now t.traffic.catalog key t.app
  have hclear : Kept k { t with traffic := (t.press key).traffic } := by
    unfold Terminal.press
    simp only
    split
    · exact h.proceed (.step (.evict (List.nil_sublist _))) h.noOrder h.trimmed
    · exact h
  refine ⟨hclear.traffic, hclear.noOrder, fun op hop => ?_, hclear.trimmed, hclear.taken_le,
    fun hu => ?_, h.calm_press key⟩
  · rcases List.mem_append.mp hop with hop | hop
    · exact h.tasks op hop
    · exact ha.keeps op hop
  · have hs : (t.press key).app.snapshot = t.app.snapshot := ha.snapshot
    rw [hs]
    exact hclear.copy hu

theorem Asked.press (h : Asked t) (key : KeyPress) (hc : (t.press key).calls < UInt64.size) :
    Asked (t.press key) := by
  have htext := searchText_press key t
  have htyped := press_typed key t
  generalize t.press key = u at *
  cases htyped with
  | still ha hcalls ho _ => exact h.congr ha.mode ha.input ha.debouncer hcalls ho htext
  | opens hi hd hcalls ho =>
    refine ⟨by rw [hcalls, hd]; exact h.numbered, fun _ o ho' => ?_, fun _ hn => ?_⟩
    · rw [ho] at ho'
      cases ho'
      exact ⟨rfl, (sought_congr hd htext).symm⟩
    · rw [ho] at hn
      cases hn
  | edits hd hcalls ho =>
    rw [hcalls] at hc
    refine ⟨by rw [hcalls, hd]; exact h.numbered.submit hc, by simp [ho], fun _ _ => ?_⟩
    rw [sought, hd, h.numbered.newest?_submit hc]
  | shut hm hd ho =>
    refine ⟨?_, by simp [hm], by simp [hm]⟩
    rcases hd with ⟨hd, hcalls⟩ | ⟨hcalls, hd | ⟨text, hd⟩⟩
    · rw [hcalls, hd]
      exact h.numbered
    · rw [hcalls, hd]
      exact h.numbered.cancel
    · rw [hcalls] at hc ⊢
      rw [hd]
      exact h.numbered.submit hc

theorem Kept.step (h : Kept k t) (hs : Step k t u) : Kept k u := by
  cases hs with
  | press key => exact h.press key
  | @run xs ys op hop =>
    have hkeeps : op.keepsSearch = true := h.tasks op (by simp [hop])
    have htasks : ∀ op ∈ xs ++ ys, op.keepsSearch = true := fun op' hm => by
      refine h.tasks op' ?_
      rw [hop, List.mem_append, List.mem_cons]
      exact (List.mem_append.mp hm).imp_right Or.inr
    exact { h.run hkeeps with tasks := htasks }
  | settle => exact h.settle _
  | traffic hl hn =>
    obtain ⟨horder, hsearch⟩ := hl.noOrder h.noOrder hn
    exact h.proceed hl horder (by rw [hsearch, h.trimmed])
  | call =>
    refine { h with tasks := fun op hop => ?_ }
    rcases List.mem_append.mp hop with hop | hop
    · exact h.tasks op hop
    · obtain rfl := List.mem_singleton.mp hop
      rfl
  | take =>
    refine { h with taken_le := le_rfl, copy := fun _ => ?_ }
    have hbox := App.applySnapshot_box t.traffic.catalog.published t.app
    have hshown := announced_lateReachable h.traffic
    show (t.app.applySnapshot t.traffic.catalog.published).snapshot.descriptor.search = _
    rw [hbox.1, hshown]
    rfl
  | aside hb =>
    have hsame := hb.same
    refine { h with copy := fun hu => ?_ }
    rw [hsame.snapshot]
    exact h.copy hu

theorem Asked.step (h : Asked t) (hk : Kept k t) (hs : Step k t u) (hc : u.calls < UInt64.size) :
    Asked u := by
  cases hs with
  | press key => exact h.press key hc
  | @run xs ys op hop =>
    have hkeeps : op.keepsSearch = true := hk.tasks op (by simp [hop])
    exact h.congr rfl rfl rfl rfl (fun _ => rfl) (Catalog.start_search t.traffic.now hkeeps)
  | settle => exact h.settle _
  | traffic hl hn =>
    exact h.congr rfl rfl rfl rfl (fun _ => rfl) (hl.noOrder hk.noOrder hn).2
  | call => exact h.congr rfl rfl rfl rfl (fun _ => rfl) rfl
  | take =>
    obtain ⟨-, hmode, hinput, hdebouncer⟩ :=
      App.applySnapshot_box t.traffic.catalog.published t.app
    exact h.congr hmode hinput hdebouncer rfl (fun _ => rfl) rfl
  | aside hb =>
    have hsame := hb.same
    exact h.congr hsame.mode hsame.input hsame.debouncer rfl (fun _ => rfl) rfl

theorem Step.calls_le (hs : Step k t u) : t.calls ≤ u.calls := by
  cases hs with
  | press key =>
    simp only [Terminal.press]
    split <;> omega
  | _ => exact le_rfl

theorem kept_reachable (h : Reachable k t) : Kept k t := by
  obtain ⟨t₀, h₀, hr⟩ := h
  induction hr with
  | refl => exact kept_initial h₀
  | tail _ hs ih => exact ih.step hs

theorem asked_reachable (h : Reachable k t) (hc : t.calls < UInt64.size) : Asked t := by
  obtain ⟨t₀, h₀, hr⟩ := h
  induction hr with
  | refl => exact asked_initial h₀
  | tail hr hs ih =>
    exact (ih (Nat.lt_of_le_of_lt hs.calls_le hc)).step (kept_reachable ⟨t₀, h₀, hr⟩) hs hc

/-- While a box is open and no text waits, the list on show has the trimmed text of the box, unless
the box still has a text that it was opened with and that was not the one asked for last. A box
opened while no text waited, after the latest snapshot had been taken, has the right text. The
latest snapshot has the search text of the list. -/
theorem search_box_agrees (h : Reachable k t) (hc : t.calls < UInt64.size)
    (hm : t.app.searchMode = true) (hw : t.debouncer.newest? = none) :
    (t.traffic.searchText = Text.trim t.app.searchInput ↔
      ∀ o ∈ t.opening, Text.trim o.copied = o.sought) ∧
    (∀ o ∈ t.opening, o.calm = true → Text.trim o.copied = o.sought) ∧
    (t.UpToDate → t.app.snapshot.descriptor.search = t.traffic.searchText) := by
  have hk := kept_reachable h
  have ha := asked_reachable h hc
  have hsought : t.sought = t.traffic.searchText := by rw [sought, hw]
  refine ⟨?_, hk.calm, hk.copy⟩
  cases ho : t.opening with
  | none => simpa [hsought, eq_comm] using ha.edited hm ho
  | some o =>
    obtain ⟨hi, hs⟩ := ha.opened hm o ho
    simp only [Option.mem_def, Option.some.injEq, forall_eq']
    rw [hi, hs, hsought]
    exact eq_comm

end Steps

/-- The application at its start, with the usual window. -/
def opened : Terminal Float where
  app :=
    { surface :=
        { geometry := ⟨1, 10, 2⟩, scroll := 0, debouncer := { quiet := Debouncer.defaultQuiet } }
      snapshot := {}
      session := {} }
  traffic := Traffic.fresh ∅

def slash : KeyPress := { key := .char '/' }

theorem reachable_opened (k : Conduct) : Reachable k opened :=
  ⟨_, ⟨_, _, _, Traffic.initial_fresh ∅, rfl, rfl, rfl⟩, .refl⟩

theorem search_box_agrees_typed :
    ∃ t : Terminal Float, Reachable (fun _ _ _ _ => True) t ∧ t.calls < UInt64.size ∧
      t.app.searchMode = true ∧ t.debouncer.newest? = none ∧ t.app.searchInput = " a" ∧
      t.traffic.searchText = "a" ∧ (t.traffic.searchText = Text.trim t.app.searchInput ↔
        ∀ o ∈ t.opening, Text.trim o.copied = o.sought) := by
  have hopen := (reachable_opened fun _ _ _ _ => True).step (.press slash)
  have hspace := hopen.step (.press { key := .char ' ' })
  have htyped := hspace.step (.press { key := .char 'a' })
  have hlater := htyped.step (.traffic (.step (.wait _ Debouncer.defaultQuiet)) nofun)
  have h := hlater.step (.settle (s := ⟨2, " a", 300000000⟩) (by decide) (by decide))
  exact ⟨_, h, by decide, by decide, by decide, by decide, by decide,
    (search_box_agrees h (by decide) (by decide) (by decide)).1⟩

/-- A box that is shut and opened again before the text typed into it has been searched for is
empty, and stays so. -/
theorem box_left_behind :
    ∃ t : Terminal Float, Reachable (fun _ _ _ _ => True) t ∧ t.app.searchMode = true ∧
      t.debouncer.waiting = [] ∧ t.tasks.isEmpty ∧ t.traffic.errands = [] ∧ t.UpToDate ∧
      t.app.snapshot.descriptor.search = "a" ∧ t.app.searchInput = "" := by
  have hopen := (reachable_opened fun _ _ _ _ => True).step (.press slash)
  have htyped := hopen.step (.press { key := .char 'a' })
  have hshut := htyped.step (.press { key := .enter })
  have hagain := hshut.step (.press slash)
  have hlater := hagain.step (.traffic (.step (.wait _ Debouncer.defaultQuiet)) nofun)
  have hsent := hlater.step (.settle (s := ⟨1, "a", 300000000⟩) (by decide) (by decide))
  have hanswered := hsent.step (.traffic (.step (@Step.answer _ _ [] []
    ⟨.search "a" Filter.all.searchScope 50, .found 1, none, 1, 0, ∅⟩ (.ok {}) ∅ rfl rfl trivial))
    nofun)
  have hlanded := hanswered.step (.traffic (@LateStep.land _ _ [] [] _ _ _ rfl rfl) nofun)
  have htaken := hlanded.step .take
  exact ⟨_, htaken, by decide, by decide, by decide, rfl, by decide, by decide, by decide⟩

end Terminal
end Companions
