import Companions.Debounce
import Mathlib.Data.List.Nodup

/-! Which of the texts submitted to a debouncer run. Every submission has a task of its own, which
sleeps for a quiet window and decides once it runs on. That may be any time after the window, and
calls made until then count. A clone of a debouncer has its window and shares its counter, so a call
of a clone is a call of the debouncer. -/
namespace Companions
namespace Debouncer

section Tickets

variable {now calls : Nat} {text : String} {t : UInt64} {d : Debouncer} {s : Submission}

/-- The submission that nothing came after, as long as it waits. -/
def newest? (d : Debouncer) : Option Submission := d.waiting.find? fun s => s.ticket == d.latest

theorem mem_of_newest? (h : d.newest? = some s) : s ∈ d.waiting ∧ s.ticket = d.latest :=
  ⟨List.mem_of_find?_eq_some h, by simpa using List.find?_some h⟩

theorem newest?_eq_none (h : ∀ s ∈ d.waiting, s.ticket ≠ d.latest) : d.newest? = none :=
  List.find?_eq_none.mpr fun s hs => by simpa using h s hs

theorem newest?_filter (p : UInt64 → Bool) :
    ({ d with waiting := d.waiting.filter fun s => p s.ticket } : Debouncer).newest? =
      d.newest?.filter fun s => p s.ticket := by
  have hsame : ({ d with waiting := d.waiting.filter fun s => p s.ticket } : Debouncer).newest? =
      d.waiting.find? fun s => p d.latest && s.ticket == d.latest := by
    simp only [newest?, List.find?_filter]
    congr 1
    funext s
    by_cases h : s.ticket = d.latest <;> simp [h]
  rw [hsame]
  cases h : d.newest? with
  | none =>
    refine List.find?_eq_none.mpr fun s hs => ?_
    exact fun hb => List.find?_eq_none.mp h s hs (Bool.and_eq_true_iff.mp hb).2
  | some s =>
    rw [Option.filter_some, (mem_of_newest? h).2]
    cases p d.latest with
    | false => simp
    | true => simpa [newest?] using h

/-- Only the submission that nothing came after runs, and who has decided waits no longer. -/
theorem decide_eq : d.decide t =
    ((d.newest?.filter fun s => s.ticket == t).map Submission.text,
      { d with waiting := d.waiting.filter fun s => s.ticket != t }) := by
  unfold Debouncer.decide
  split
  · rename_i hn
    have hne : ∀ s ∈ d.waiting, s.ticket ≠ t := by simpa using List.find?_eq_none.mp hn
    have hkeep : (d.waiting.filter fun s => s.ticket != t) = d.waiting :=
      List.filter_eq_self.mpr fun s hs => by simpa using hne s hs
    cases h : d.newest? with
    | none => rw [hkeep]; rfl
    | some s => simp [Option.filter_some, hkeep, hne s (mem_of_newest? h).1]
  · rename_i s hs
    by_cases ht : d.latest = t
    · subst ht
      have hnew : d.newest? = some s := hs
      simp [Option.filter_some, hnew, (mem_of_newest? hnew).2]
    · cases h : d.newest? with
      | none => simp [ht]
      | some s => simp [Option.filter_some, ht, (mem_of_newest? h).2]

/-- The first `calls` tickets are those issued, each at most once. -/
structure Numbered (calls : Nat) (d : Debouncer) : Prop where
  latest : d.latest = UInt64.ofNat calls
  issued : ∀ s ∈ d.waiting, ∃ n ≤ calls, s.ticket = UInt64.ofNat n
  nodup : (d.waiting.map Submission.ticket).Nodup

theorem Numbered.ticket_ne (h : Numbered calls d) (hb : calls + 1 < UInt64.size)
    (hs : s ∈ d.waiting) : s.ticket ≠ d.latest + 1 := by
  obtain ⟨n, hn, ht⟩ := h.issued s hs
  rw [ht, h.latest]
  intro he
  have he := congrArg UInt64.toNat he
  have hsize : UInt64.size = 18446744073709551616 := rfl
  simp [UInt64.toNat_ofNat] at he
  omega

theorem Numbered.submit (h : Numbered calls d) (hb : calls + 1 < UInt64.size) :
    Numbered (calls + 1) (d.submit now text) := by
  refine ⟨?_, ?_, ?_⟩
  · simp [Debouncer.submit, h.latest]
  · intro s hs
    rcases List.mem_append.mp hs with hs | hs
    · obtain ⟨n, hn, ht⟩ := h.issued s hs
      exact ⟨n, Nat.le_succ_of_le hn, ht⟩
    · obtain rfl := List.mem_singleton.mp hs
      exact ⟨calls + 1, Nat.le_refl _, by simp [h.latest]⟩
  · have hnew : d.latest + 1 ∉ d.waiting.map Submission.ticket := by
      intro hm
      obtain ⟨s, hs, ht⟩ := List.mem_map.mp hm
      exact h.ticket_ne hb hs ht
    simpa [Debouncer.submit, List.nodup_append, h.nodup] using fun s hs => h.ticket_ne hb hs

theorem Numbered.cancel (h : Numbered calls d) : Numbered (calls + 1) d.cancel := by
  refine ⟨by simp [Debouncer.cancel, h.latest], ?_, h.nodup⟩
  intro s hs
  obtain ⟨n, hn, ht⟩ := h.issued s hs
  exact ⟨n, Nat.le_succ_of_le hn, ht⟩

theorem Numbered.filter (h : Numbered calls d) (p : Submission → Bool) :
    Numbered calls { d with waiting := d.waiting.filter p } where
  latest := h.latest
  issued := fun s hs => h.issued s (List.mem_filter.mp hs).1
  nodup := h.nodup.sublist (List.filter_sublist.map _)

theorem Numbered.newest?_submit (h : Numbered calls d) (hb : calls + 1 < UInt64.size) :
    (d.submit now text).newest? = some ⟨d.latest + 1, text, now + d.quiet⟩ := by
  have hold : d.waiting.find? (fun s => s.ticket == d.latest + 1) = none :=
    List.find?_eq_none.mpr fun s hs => by simpa using h.ticket_ne hb hs
  simp [newest?, Debouncer.submit, List.find?_append, hold]

theorem Numbered.newest?_cancel (h : Numbered calls d) (hb : calls + 1 < UInt64.size) :
    d.cancel.newest? = none :=
  newest?_eq_none fun _ hs => h.ticket_ne hb hs

/-- Different submissions wait with different tickets. -/
theorem Numbered.eq_of_ticket (h : Numbered calls d) {s' : Submission} (hs : s ∈ d.waiting)
    (hs' : s' ∈ d.waiting) (ht : s.ticket = s'.ticket) : s = s' :=
  List.inj_on_of_nodup_map h.nodup hs hs' ht

end Tickets

/-- A call, the clock going on, or a task. -/
inductive Event
  | submit (text : String)
  | cancel
  | wait (span : Nat)
  /-- The task of a submission has slept for its window and runs on. -/
  | wake (ticket : UInt64)
  deriving DecidableEq

namespace Event

def isCall : Event → Bool
  | submit _ | cancel => true
  | wait _ | wake _ => false

def isWake : Event → Bool
  | wake _ => true
  | submit _ | cancel | wait _ => false

/-- The time after an event. -/
def clock (now : Nat) : Event → Nat
  | wait span => now + span
  | submit _ | cancel | wake _ => now

/-- The number of calls after an event. -/
def number (calls : Nat) (e : Event) : Nat := if e.isCall then calls + 1 else calls

end Event

/-- A debouncer at a time, and the texts that have run, each with its time, oldest first. -/
structure Timeline where
  debouncer : Debouncer
  now : Nat
  ran : List (Nat × String) := []

/-- No task has slept for its window and still to run on. -/
def Timeline.Idle (s : Timeline) : Prop := ∀ w ∈ s.debouncer.waiting, s.now < w.due

instance (s : Timeline) : Decidable s.Idle :=
  inferInstanceAs (Decidable (∀ w ∈ s.debouncer.waiting, s.now < w.due))

inductive Step : Timeline → Event → Timeline → Prop
  | submit (s : Timeline) (text : String) :
      Step s (.submit text) { s with debouncer := s.debouncer.submit s.now text }
  | cancel (s : Timeline) : Step s .cancel { s with debouncer := s.debouncer.cancel }
  | wait (s : Timeline) (span : Nat) : Step s (.wait span) { s with now := s.now + span }
  | wake {s : Timeline} {w : Submission} (hw : w ∈ s.debouncer.waiting) (hd : w.due ≤ s.now) :
      Step s (.wake w.ticket)
        { s with
          debouncer := (s.debouncer.decide w.ticket).2
          ran := s.ran ++ (s.debouncer.decide w.ticket).1.toList.map (s.now, ·) }

/-- Steps, each of which falls where `p` lets it. -/
inductive Run (p : Timeline → Event → Prop) : Timeline → List Event → Timeline → Prop
  | refl (s : Timeline) : Run p s [] s
  | step {s t u : Timeline} {e : Event} {es : List Event} (hp : p s e) (h : Step s e t)
      (hr : Run p t es u) : Run p s (e :: es) u

/-- Tasks run on in any order and at any time after their windows. -/
def Free (_ : Timeline) (_ : Event) : Prop := True

/-- Every task whose window is over runs on before the next call, and before the clock goes on. -/
def Calm (s : Timeline) (e : Event) : Prop := e.isWake = true ∨ s.Idle

/-- When the task of a submission runs on after its window, unless a call comes before. -/
def wokenAt? (w : Submission) : Nat → List Event → Option Nat
  | _, [] => none
  | now, e :: es =>
    if e = .wake w.ticket ∧ w.due ≤ now then some now
    else if e.isCall then none
    else wokenAt? w (e.clock now) es

/-- The first time at which the window of a submission is over, unless a call comes before. -/
def overAt? (w : Submission) : Nat → List Event → Option Nat
  | now, [] => if w.due ≤ now then some now else none
  | now, e :: es =>
    if w.due ≤ now then some now
    else if e.isCall then none
    else overAt? w (e.clock now) es

/-- The texts that run, each with its time, in the order of submission, if that is when submissions
run. Each call takes the next ticket. -/
def settled (time? : Submission → Nat → List Event → Option Nat) (quiet : Nat) :
    Nat → Nat → List Event → List (Nat × String)
  | _, _, [] => []
  | calls, now, .submit text :: es =>
    ((time? ⟨.ofNat (calls + 1), text, now + quiet⟩ now es).map (·, text)).toList ++
      settled time? quiet (calls + 1) now es
  | calls, now, e :: es =>
    settled time? quiet (e.number calls) (e.clock now) es

variable {quiet now calls : Nat} {text : String} {d : Debouncer} {s t u : Timeline} {e : Event}
  {es : List Event} {w : Submission} {p : Timeline → Event → Prop}
  {time? : Submission → Nat → List Event → Option Nat}

/-- What an event tells of those that wait: a call comes before any of them has run, and a task that
runs on does so for its own. -/
def Tells (time? : Submission → Nat → List Event → Option Nat) (s : Timeline) (e : Event)
    (es : List Event) : Prop :=
  ∀ w ∈ s.debouncer.waiting, time? w s.now (e :: es) =
    if e = .wake w.ticket then some s.now
    else if e.isCall then none
    else time? w (e.clock s.now) es

theorem Step.tells_wokenAt? (h : Step s e t) (hn : Numbered calls s.debouncer) :
    Tells wokenAt? s e es := by
  intro w hw
  cases h with
  | @wake w' hw' hd =>
    by_cases ht : w'.ticket = w.ticket
    · obtain rfl := hn.eq_of_ticket hw' hw ht
      simp [wokenAt?, hd]
    · simp [wokenAt?, ht]
  | _ => simp [wokenAt?]

/-- In calm, a submission runs as soon as its window is over. -/
theorem Step.tells_overAt? (h : Step s e t) (hn : Numbered calls s.debouncer) (hc : Calm s e) :
    Tells overAt? s e es := by
  intro w hw
  cases h with
  | @wake w' hw' hd =>
    by_cases ht : w'.ticket = w.ticket
    · obtain rfl := hn.eq_of_ticket hw' hw ht
      simp [overAt?, hd]
    · have hnext : overAt? w s.now es = if w.due ≤ s.now then some s.now else overAt? w s.now es := by
        cases es <;> simp +contextual [overAt?]
      simpa [overAt?, ht, Event.isCall, Event.clock] using hnext.symm
  | _ =>
    have hdue : ¬ w.due ≤ s.now := Nat.not_le.mpr (hc.resolve_left nofun w hw)
    simp [overAt?, hdue]

/-- What is still to run of the submissions made. -/
def Timeline.toRun (time? : Submission → Nat → List Event → Option Nat) (es : List Event)
    (s : Timeline) : List (Nat × String) :=
  (s.debouncer.newest?.bind fun w => (time? w s.now es).map (·, w.text)).toList

/-- A call gives up what was to run. -/
theorem Tells.toRun_call (h : Tells time? s e es) (he : e.isCall = true) :
    s.toRun time? (e :: es) = [] := by
  cases hn : s.debouncer.newest? with
  | none => simp [Timeline.toRun, hn]
  | some w =>
    have hw := h w (mem_of_newest? hn).1
    have hne : e ≠ .wake w.ticket := by
      rintro rfl
      cases he
    rw [if_neg hne, if_pos he] at hw
    simp [Timeline.toRun, hn, hw]

theorem Tells.toRun_wait {span : Nat} (h : Tells time? s (.wait span) es) :
    s.toRun time? (.wait span :: es) =
      ({ s with now := s.now + span } : Timeline).toRun time? es := by
  cases hn : s.debouncer.newest? with
  | none => simp [Timeline.toRun, hn]
  | some w => simp [Timeline.toRun, hn, h w (mem_of_newest? hn).1, Event.isCall, Event.clock]

/-- A task that runs on takes off what was to run if it is its own. -/
theorem Tells.toRun_wake {ticket : UInt64} (h : Tells time? s (.wake ticket) es) :
    s.toRun time? (.wake ticket :: es) =
      (s.debouncer.decide ticket).1.toList.map (s.now, ·) ++
        ({ s with debouncer := (s.debouncer.decide ticket).2 } : Timeline).toRun time? es := by
  rw [Timeline.toRun, Timeline.toRun, decide_eq, newest?_filter (d := s.debouncer) (· != ticket)]
  cases hn : s.debouncer.newest? with
  | none => rfl
  | some w =>
    have hw := h w (mem_of_newest? hn).1
    by_cases ht : ticket = w.ticket
    · subst ht
      simp [Option.filter_some, hw]
    · have ht' : w.ticket ≠ ticket := fun he => ht he.symm
      simp [Option.filter_some, hw, ht, ht', Event.isCall, Event.clock]

theorem Event.number_add (calls : Nat) (e : Event) (es : List Event) :
    e.number calls + es.countP isCall = calls + (e :: es).countP isCall := by
  cases e <;> simp only [number, isCall, List.countP_cons] <;> simp <;> omega

theorem Step.numbered (h : Step s e t) (hn : Numbered calls s.debouncer)
    (hb : e.number calls < UInt64.size) : Numbered (e.number calls) t.debouncer := by
  cases h with
  | submit text => exact hn.submit hb
  | cancel => exact hn.cancel
  | wait span => exact hn
  | wake hw hd =>
    rw [decide_eq]
    exact hn.filter _

/-- An event may let a text run, add a submission or give up the one that was to run. -/
theorem Step.ran_eq (h : Step s e t) (hn : Numbered calls s.debouncer)
    (hb : e.number calls < UInt64.size) (ht : Tells time? s e es) :
    t.ran ++ t.toRun time? es ++
        settled time? t.debouncer.quiet (e.number calls) t.now es =
      s.ran ++ s.toRun time? (e :: es) ++
        settled time? s.debouncer.quiet calls s.now (e :: es) := by
  cases h with
  | submit text =>
    rw [ht.toRun_call rfl]
    simp only [Timeline.toRun, hn.newest?_submit hb, settled, hn.latest]
    simp [Debouncer.submit, Event.number, Event.isCall]
  | cancel =>
    rw [ht.toRun_call rfl]
    simp only [Timeline.toRun, hn.newest?_cancel hb, settled]
    simp [Debouncer.cancel, Event.clock]
  | wait span =>
    rw [ht.toRun_wait]
    rfl
  | wake hw hd =>
    rw [ht.toRun_wake, decide_eq]
    simp [settled, Event.clock, Timeline.toRun]

/-- What runs is what was to run of the submissions made before, and what is settled of those that
come. -/
theorem Run.ran_eq (time? : Submission → Nat → List Event → Option Nat) (h : Run p s es t)
    (hn : Numbered calls s.debouncer) (hb : calls + es.countP Event.isCall < UInt64.size)
    (ht : ∀ {calls u e v post}, p u e → Step u e v → Numbered calls u.debouncer →
      Tells time? u e post)
    (hend : ∀ w ∈ t.debouncer.waiting, time? w t.now [] = none) :
    t.ran = s.ran ++ s.toRun time? es ++ settled time? s.debouncer.quiet calls s.now es := by
  induction h generalizing calls with
  | refl s =>
    have hnone : s.toRun time? [] = [] := by
      cases hn : s.debouncer.newest? with
      | none => simp [Timeline.toRun, hn]
      | some w => simp [Timeline.toRun, hn, hend w (mem_of_newest? hn).1]
    simp [hnone, settled]
  | step hp hs _ ih =>
    rw [← Event.number_add] at hb
    have hlt := Nat.lt_of_le_of_lt (Nat.le_add_right _ _) hb
    rw [← hs.ran_eq hn hlt (ht hp hs hn)]
    exact ih (hs.numbered hn hlt) hb hend

section Settling

variable {ts : List UInt64}

/-- Submissions decide one after the other. -/
def decideAll : List UInt64 → Debouncer → List String × Debouncer
  | [], d => ([], d)
  | t :: ts, d =>
    let (text, d) := d.decide t
    let (texts, d) := decideAll ts d
    (text.toList ++ texts, d)

theorem settle_eq : d.settle now = decideAll (d.due now) d := by
  have hfold : ∀ f : List String × Debouncer → UInt64 → List String × Debouncer,
      (∀ texts d t, f (texts, d) t = (texts ++ (d.decide t).1.toList, (d.decide t).2)) →
      ∀ ts texts d, ts.foldl f (texts, d) = (texts ++ (decideAll ts d).1, (decideAll ts d).2) := by
    intro f hf ts
    induction ts with
    | nil => simp [decideAll]
    | cons t ts ih =>
      intro texts d
      rw [List.foldl_cons, hf, ih]
      simp [decideAll]
  refine (hfold _ (fun texts d t => ?_) (d.due now) [] d).trans (by simp)
  cases h : d.decide t with
  | mk text d' => cases text <;> simp [h]

theorem decideAll_snd :
    (decideAll ts d).2 = { d with waiting := d.waiting.filter fun w => w.ticket ∉ ts } := by
  induction ts generalizing d with
  | nil => simp [decideAll]
  | cons t ts ih =>
    simp only [decideAll, ih, decide_eq, List.filter_filter, mk.injEq, true_and]
    exact List.filter_congr fun w _ => by by_cases h : w.ticket = t <;> simp [h]

theorem run_decideAll (hp : ∀ u t, p u (.wake t)) {ran : List (Nat × String)} (hn : ts.Nodup)
    (hw : ∀ t ∈ ts, ∃ w ∈ d.waiting, w.ticket = t ∧ w.due ≤ now) :
    Run p ⟨d, now, ran⟩ (ts.map .wake)
      ⟨(decideAll ts d).2, now, ran ++ (decideAll ts d).1.map (now, ·)⟩ := by
  induction ts generalizing d ran with
  | nil => simpa [decideAll] using Run.refl _
  | cons t ts ih =>
    obtain ⟨hnew, hts⟩ := List.nodup_cons.mp hn
    obtain ⟨w, hm, rfl, hd⟩ := hw t (by simp)
    have hrest : ∀ t ∈ ts, ∃ w' ∈ (d.decide w.ticket).2.waiting, w'.ticket = t ∧ w'.due ≤ now := by
      intro t ht
      obtain ⟨w', hm', rfl, hd'⟩ := hw t (by simp [ht])
      have hne : w'.ticket ≠ w.ticket := fun he => hnew (he ▸ ht)
      exact ⟨w', by simp [decide_eq, hm', hne], rfl, hd'⟩
    have hstep : Step ⟨d, now, ran⟩ (.wake w.ticket) ⟨(d.decide w.ticket).2, now,
        ran ++ (d.decide w.ticket).1.toList.map (now, ·)⟩ := .wake hm hd
    simpa [decideAll] using Run.step (hp _ _) hstep (ih hts hrest)

/-- To decide all that is due is what the tasks do that run on one after the other. -/
theorem Numbered.run_settle (h : Numbered calls d) (hp : ∀ u t, p u (.wake t)) (now : Nat)
    (ran : List (Nat × String)) :
    Run p ⟨d, now, ran⟩ ((d.due now).map .wake)
      ⟨(d.settle now).2, now, ran ++ (d.settle now).1.map (now, ·)⟩ := by
  rw [settle_eq]
  refine run_decideAll hp (h.nodup.sublist (List.filter_sublist.map _)) fun t ht => ?_
  obtain ⟨w, hw, rfl⟩ := List.mem_map.mp ht
  obtain ⟨hw, hd⟩ := List.mem_filter.mp hw
  exact ⟨w, hw, rfl, by simpa using hd⟩

theorem lt_due_of_settle (hw : w ∈ (d.settle now).2.waiting) : now < w.due := by
  rw [settle_eq, decideAll_snd] at hw
  obtain ⟨hw, ht⟩ := List.mem_filter.mp hw
  by_contra hd
  have hdue : w.ticket ∈ d.due now :=
    List.mem_map_of_mem (List.mem_filter.mpr ⟨hw, by simpa using hd⟩)
  simp [hdue] at ht

end Settling

theorem Run.free (h : Run p s es t) : Run Free s es t := by
  induction h with
  | refl s => exact .refl s
  | step _ hs _ ih => exact .step trivial hs ih

theorem Run.append {es' : List Event} (h : Run p s es t) (h' : Run p t es' u) :
    Run p s (es ++ es') u := by
  induction h with
  | refl => exact h'
  | step hp hs _ ih => exact .step hp hs (ih h')

theorem Step.exists_of_not_wake (s : Timeline) (he : e.isWake = false) : ∃ t, Step s e t := by
  cases e with
  | submit text => exact ⟨_, .submit s text⟩
  | cancel => exact ⟨_, .cancel s⟩
  | wait span => exact ⟨_, .wait s span⟩
  | wake t => cases he

theorem Numbered.exists_idle (hn : Numbered calls s.debouncer) :
    ∃ es u, es.filter (fun e => !e.isWake) = [] ∧ Run Calm s es u ∧ u.Idle ∧
      Numbered calls u.debouncer := by
  have hrun := hn.run_settle (p := Calm) (fun _ _ => Or.inl rfl) s.now s.ran
  refine ⟨_, _, ?_, hrun, fun w hw => lt_due_of_settle hw, ?_⟩
  · simp [List.filter_map, Function.comp_def, Event.isWake]
  · rw [settle_eq, decideAll_snd]
    exact hn.filter _

/-- Whatever is called and however the clock goes on, tasks can run on in calm until there is none
left whose window is over. -/
theorem Numbered.exists_calm_run (hn : Numbered calls s.debouncer)
    (hb : calls + es.countP Event.isCall < UInt64.size) (he : ∀ e ∈ es, e.isWake = false) :
    ∃ es' t, es'.filter (fun e => !e.isWake) = es ∧ Run Calm s es' t ∧ t.Idle := by
  obtain ⟨wakes, u, hw, hrun, hidle, hu⟩ := hn.exists_idle
  induction es generalizing s u calls wakes with
  | nil => exact ⟨wakes, u, hw, hrun, hidle⟩
  | cons e es ih =>
    rw [List.forall_mem_cons] at he
    rw [← Event.number_add] at hb
    obtain ⟨v, hs⟩ := Step.exists_of_not_wake u he.1
    have hv := hs.numbered hu (Nat.lt_of_le_of_lt (Nat.le_add_right _ _) hb)
    obtain ⟨wakes', u', hw', hrun', hidle', hu'⟩ := hv.exists_idle
    obtain ⟨es', t, hes, ht, hend⟩ := ih hv hb he.2 wakes' u' hw' hrun' hidle' hu'
    refine ⟨wakes ++ e :: es', t, ?_, hrun.append (.step (Or.inr hidle) hs ht), hend⟩
    rw [List.filter_append, hw, List.filter_cons_of_pos (by simp [he.1]), hes, List.nil_append]

/-- A submission runs exactly once, when its task runs on after its window, if no call comes before
that; otherwise it never runs. So what runs does so in the order of submission, each with its own
text. In calm, what counts is whether a call comes before the window is over. -/
theorem run_when_woken (quiet now : Nat) (es : List Event) (t : Timeline)
    (hb : es.countP Event.isCall < UInt64.size) (h : Run Free ⟨{ quiet }, now, []⟩ es t) :
    t.ran = settled wokenAt? quiet 0 now es ∧
      (Run Calm ⟨{ quiet }, now, []⟩ es t → t.Idle →
        t.ran = settled overAt? quiet 0 now es) := by
  have hn : Numbered 0 { quiet } := ⟨rfl, by simp, by simp⟩
  have hb : 0 + es.countP Event.isCall < UInt64.size := by simpa using hb
  constructor
  · have heq := h.ran_eq wokenAt? hn hb (fun _ hs hn => hs.tells_wokenAt? hn)
      fun _ _ => rfl
    simpa [Timeline.toRun, newest?] using heq
  · intro hc hi
    have heq := hc.ran_eq overAt? hn hb (fun hp hs hn => hs.tells_overAt? hn hp)
      fun w hw => by simp [overAt?, hi w hw]
    simpa [Timeline.toRun, newest?] using heq

/-- A burst, a text given up, and a jump of the clock over a deadline. -/
theorem run_when_woken_typing :
    ∃ es t, es.countP Event.isCall < UInt64.size ∧ Run Free ⟨{ quiet := 300 }, 0, []⟩ es t ∧
      es.filter (fun e => !e.isWake) =
        [.submit "a", .wait 50, .submit "al", .wait 250, .wait 50, .submit "x", .wait 10, .cancel,
          .submit "b", .wait 1000] ∧
      t.ran = [(350, "al"), (1360, "b")] := by
  have h : Run Calm ⟨{ quiet := 300 }, 0, []⟩ _ _ :=
    .step (Or.inr (by decide)) (.submit _ "a") <| .step (Or.inr (by decide)) (.wait _ 50) <|
    .step (Or.inr (by decide)) (.submit _ "al") <| .step (Or.inr (by decide)) (.wait _ 250) <|
    .step (Or.inl rfl) (.wake (w := ⟨1, "a", 300⟩) (by decide) (by decide)) <|
    .step (Or.inr (by decide)) (.wait _ 50) <|
    .step (Or.inl rfl) (.wake (w := ⟨2, "al", 350⟩) (by decide) (by decide)) <|
    .step (Or.inr (by decide)) (.submit _ "x") <| .step (Or.inr (by decide)) (.wait _ 10) <|
    .step (Or.inr (by decide)) (.cancel _) <| .step (Or.inr (by decide)) (.submit _ "b") <|
    .step (Or.inr (by decide)) (.wait _ 1000) <|
    .step (Or.inl rfl) (.wake (w := ⟨5, "b", 660⟩) (by decide) (by decide)) <|
    .step (Or.inl rfl) (.wake (w := ⟨3, "x", 650⟩) (by decide) (by decide)) <| .refl _
  refine ⟨_, _, by decide, h.free, rfl, ?_⟩
  exact ((run_when_woken 300 0 _ _ (by decide) h.free).2 h (by decide)).trans rfl

/-- With a window of zero a text is given up by one that is submitted at once after it, though its
window is over by then. -/
theorem burst_not_run :
    ¬ ∀ quiet now es t, es.countP Event.isCall < UInt64.size →
      Run Free ⟨{ quiet }, now, []⟩ es t → t.debouncer.waiting = [] →
      t.ran = settled overAt? quiet 0 now es := by
  intro hall
  have h : Run Free ⟨{ quiet := 0 }, 0, []⟩ _ _ :=
    .step trivial (.submit _ "a") <| .step trivial (.submit _ "ab") <|
    .step trivial (.wake (w := ⟨1, "a", 0⟩) (by decide) (by decide)) <|
    .step trivial (.wake (w := ⟨2, "ab", 0⟩) (by decide) (by decide)) <| .refl _
  have heq := hall 0 0 _ _ (by decide) h (by decide)
  exact absurd heq (by decide)

end Debouncer
end Companions
