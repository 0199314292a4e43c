import Companions.Proofs.RehearsedTraffic
import Companions.Proofs.SearchBox
import Companions.Proofs.Selection

/-! A rehearsal in which everything comes from the keys and the backend is a run of the terminal. In
a run of the terminal its debouncer goes through a run of its own. -/
namespace Companions

namespace Terminal

variable {α : Type} {k : Conduct} {t u : Terminal α}

/-- Some time may have passed. -/
theorem LateStep.now_eq {s s' : Traffic} {a : Event} (h : LateStep k s a s') :
    s'.now = s.now ∨ ∃ span, s'.now = s.now + span := by
  cases h with
  | land => exact Or.inl rfl
  | step h =>
    cases h with
    | wait span => exact Or.inr ⟨span, rfl⟩
    | _ => exact Or.inl rfl

/-- Between two states of the terminal its debouncer takes steps of its own, and what runs then is
what is searched for. -/
def Times (ran : List (Nat × String)) (t u : Terminal α) : Prop :=
  ∃ es texts, Debouncer.Run Debouncer.Free ⟨t.debouncer, t.traffic.now, ran⟩ es
      ⟨u.debouncer, u.traffic.now, ran ++ texts.map (t.traffic.now, ·)⟩ ∧
    (texts = [] ∨ ∃ text, texts = [text] ∧ u.traffic = t.traffic.start (.search text))

theorem times_still {ran : List (Nat × String)} (hd : u.debouncer = t.debouncer)
    (hn : u.traffic.now = t.traffic.now) : Times ran t u := by
  refine ⟨[], [], ?_, Or.inl rfl⟩
  rw [hd, hn, List.map_nil, List.append_nil]
  exact .refl _

variable [Length α]

theorem now_press (key : KeyPress) (t : Terminal α) :
    (t.press key).traffic.now = t.traffic.now := by
  unfold press
  dsimp only
  split <;> rfl

theorem times_press (ran : List (Nat × String)) (key : KeyPress) (t : Terminal α) :
    Times ran t (t.press key) := by
  have hd : (t.press key).debouncer = t.debouncer ∨
      (t.press key).debouncer = t.debouncer.cancel ∨
      ∃ text, (t.press key).debouncer = t.debouncer.submit t.traffic.now text := by
    cases press_typed key t with
    | still ha => exact Or.inl ha.debouncer
    | opens _ hd => exact Or.inl hd
    | edits hd => exact Or.inr (Or.inr ⟨_, hd⟩)
    | shut _ hd => exact hd.imp And.left And.right
  have hn := now_press key t
  rcases hd with hd | hd | ⟨text, hd⟩
  · exact times_still hd hn
  · refine ⟨[.cancel], [], ?_, Or.inl rfl⟩
    rw [hd, hn, List.map_nil, List.append_nil]
    exact .step trivial (.cancel ⟨t.debouncer, t.traffic.now, ran⟩) (.refl _)
  · refine ⟨[.submit text], [], ?_, Or.inl rfl⟩
    rw [hd, hn, List.map_nil, List.append_nil]
    exact .step trivial (.submit ⟨t.debouncer, t.traffic.now, ran⟩ text) (.refl _)

omit [Length α] in
theorem times_settle (ran : List (Nat × String)) {w : Submission}
    (hw : w ∈ t.debouncer.waiting) (hd : w.due ≤ t.traffic.now) :
    Times ran t (t.settle w.ticket) := by
  have hwake := Debouncer.Step.wake (s := ⟨t.debouncer, t.traffic.now, ran⟩) hw hd
  refine ⟨[.wake w.ticket], (t.debouncer.decide w.ticket).1.toList, ?_, ?_⟩
  · have hn : (t.settle w.ticket).traffic.now = t.traffic.now := by
      unfold settle
      dsimp only
      split <;> rfl
    rw [hn]
    exact .step trivial hwake (.refl _)
  · cases hdecided : (t.debouncer.decide w.ticket).1 with
    | none => exact Or.inl rfl
    | some text => exact Or.inr ⟨text, rfl, by simp only [settle, hdecided]⟩

theorem Step.times (h : Step k t u) (ran : List (Nat × String)) : Times ran t u := by
  cases h with
  | press key => exact times_press ran key t
  | settle hw hd => exact times_settle ran hw hd
  | traffic hl hn =>
    rcases LateStep.now_eq hl with hsame | ⟨span, hlater⟩
    · exact times_still rfl hsame
    · refine ⟨[.wait span], [], ?_, Or.inl rfl⟩
      rw [List.map_nil, List.append_nil]
      have hwait := Debouncer.Step.wait ⟨t.debouncer, t.traffic.now, ran⟩ span
      rw [← hlater] at hwait
      exact .step trivial hwait (.refl _)
  | take =>
    exact times_still (App.applySnapshot_box t.traffic.catalog.published t.app).2.2.2 rfl
  | aside hb => exact times_still hb.same.debouncer rfl
  | run => exact times_still rfl rfl
  | call => exact times_still rfl rfl

/-- In a run of the terminal its debouncer goes through a run of its own, and each text that runs is
searched for at that time. -/
theorem run_times (h : Relation.ReflTransGen (Step k) t u) :
    ∃ es ran, Debouncer.Run Debouncer.Free ⟨t.debouncer, t.traffic.now, []⟩ es
        ⟨u.debouncer, u.traffic.now, ran⟩ ∧
      ∀ p ∈ ran, ∃ v w, Relation.ReflTransGen (Step k) t v ∧ Step k v w ∧
        v.traffic.now = p.1 ∧ w.traffic = v.traffic.start (.search p.2) := by
  induction h with
  | refl => exact ⟨[], [], .refl _, nofun⟩
  | @tail v w hr hs ih =>
    obtain ⟨es, ran, hrun, hran⟩ := ih
    obtain ⟨es', texts, hrun', htexts⟩ := hs.times ran
    refine ⟨es ++ es', _, hrun.append hrun', fun p hp => ?_⟩
    rcases List.mem_append.mp hp with hp | hp
    · exact hran p hp
    · obtain ⟨text, htext, rfl⟩ := List.mem_map.mp hp
      rcases htexts with rfl | ⟨text', rfl, hsearch⟩
      · cases htext
      · obtain rfl := List.mem_singleton.mp htext
        exact ⟨v, w, hr, hs, rfl, hsearch⟩

end Terminal

/-- The operation that a turn is to begin. -/
def Turn.operation? : Turn → Option Operation
  | start _ op => some op
  | settle _ | resume _ | rest _ | reload _ => none

/-- What a user of the terminal, the clock and the backend can do, and whoever changes the
session. -/
def Cue.isTerminal {α : Type} : Cue α → Bool
  | .nothing | .answer _ | .release _ | .operation .reload | .cacheClear | .invalidate | .lookUp _
  | .isPending _ | .advance _ | .follow | .unfollow | .enter _ | .leave | .resize _ | .keys _
  | .panicked _ | .render _ _ => true
  | .operation _ | .cacheGet _ | .dispatch _ | .reveal _ | .layout _ | .move _
  | .clearStatus => false

namespace Rehearsal

variable {α : Type} {r q : Rehearsal α} {s u : Traffic} {t : Terminal α} {caller : Caller}
  {p : Progress}

/-- The operations that are still to begin. -/
def tasks (r : Rehearsal α) : List Operation := r.queue.filterMap Turn.operation?

/-- The application is left as it is, and at most a reload of the follower is to begin. -/
structure Spares (r q : Rehearsal α) : Prop where
  app : q.app = r.app
  taken : q.snapshotsTaken = r.snapshotsTaken
  tasks : q.tasks = r.tasks ∨ q.tasks = .reload :: r.tasks

theorem Spares.refl (r : Rehearsal α) : Spares r r := ⟨rfl, rfl, Or.inl rfl⟩

theorem spares_rest (id : Nat) (r : Rehearsal α) : Spares r (r.rest id) := by
  unfold Rehearsal.rest
  split
  · split
    · dsimp only
      split
      · exact ⟨rfl, rfl, Or.inr rfl⟩
      · exact ⟨rfl, rfl, Or.inl rfl⟩
    · exact .refl r
  · exact .refl r

theorem spares_finish (caller : Caller) (out : Outcome) (r : Rehearsal α) :
    Spares r (r.finish caller out) := by
  unfold Rehearsal.finish
  cases caller with
  | cue n => exact ⟨rfl, rfl, Or.inl rfl⟩
  | surface => exact .refl r
  | follower id => exact spares_rest id r
  | opening id => cases out <;> exact ⟨rfl, rfl, Or.inl rfl⟩

theorem spares_pursue (caller : Caller) (n : Nat) (p : Progress) (r : Rehearsal α) :
    Spares r (r.pursue caller n p) := by
  induction n generalizing p r with
  | zero =>
    cases p with
    | ends out => exact spares_finish caller out r
    | asks request w => exact .refl r
  | succ n ih =>
    cases p with
    | ends out => exact spares_finish caller out r
    | asks request w =>
      obtain ⟨script, openings, calls, reply, hgoes | ⟨gate, hgoes⟩⟩ :=
        pursue_asks caller n request w r
      · have hrest := ih (r.catalog.resume r.now w reply).2
          (({ r with script, openings, calls } : Rehearsal α).withCatalog
            (r.catalog.resume r.now w reply).1)
        rw [hgoes]
        exact ⟨hrest.app, hrest.taken, hrest.tasks⟩
      · rw [hgoes]
        exact ⟨rfl, rfl, Or.inl rfl⟩

theorem spares_launch (caller : Caller) (op : Operation) (r : Rehearsal α) :
    Spares r (r.launch caller op) := by
  have h := spares_pursue caller callsPerOperation (r.catalog.start r.now op).2
    (r.withCatalog (r.catalog.start r.now op).1)
  exact ⟨h.app, h.taken, h.tasks⟩

theorem spares_goOn (caller : Caller) (n : Nat) (w : Await) (reply : w.Reply) (r : Rehearsal α) :
    Spares r (r.goOn caller n w reply) := by
  have h := spares_pursue caller n (r.catalog.resume r.now w reply).2
    (r.withCatalog (r.catalog.resume r.now w reply).1)
  exact ⟨h.app, h.taken, h.tasks⟩

/-- The rehearsal is in the state of the terminal. -/
structure Shows (r : Rehearsal α) (t : Terminal α) : Prop where
  plays : Plays r t.traffic
  app : t.app = r.app
  taken : t.taken = r.snapshotsTaken
  tasks : r.tasks.Subperm t.tasks

variable {turn : Turn} {turns : List Turn}

theorem spares_takeTurn (turn : Turn) (r : Rehearsal α) (h : ∀ ticket, turn ≠ .settle ticket) :
    Spares r (r.takeTurn turn) := by
  unfold Rehearsal.takeTurn
  cases turn with
  | settle ticket => exact (h ticket rfl).elim
  | start caller op =>
    dsimp only
    split
    · exact spares_launch caller op r
    · exact .refl r
  | resume job =>
    dsimp only
    split
    · exact spares_goOn job.caller callsPerOperation job.await job.reply r
    · exact .refl r
  | rest id => exact spares_rest id r
  | reload id =>
    dsimp only
    split
    · rename_i current f hf
      split
      · have hlaunch := spares_launch (.follower id) .reload (r.withFollower (some (id, f.run)))
        exact ⟨hlaunch.app, hlaunch.taken, hlaunch.tasks⟩
      · exact .refl r
    · exact .refl r

theorem Shows.dequeue (h : Shows r t) (hq : r.queue = turn :: turns) :
    ({ r with queue := turns } : Rehearsal α).tasks.Subperm t.tasks := by
  have hsub : ({ r with queue := turns } : Rehearsal α).tasks.Sublist r.tasks := by
    rw [Rehearsal.tasks, Rehearsal.tasks, hq]
    exact (List.sublist_cons_self _ _).filterMap _
  exact hsub.subperm.trans h.tasks

theorem Shows.enqueue_start (h : Shows r t) (caller : Caller) (op : Operation) :
    Shows (r.enqueue (.start caller op)) { t with tasks := t.tasks ++ [op] } := by
  refine ⟨h.plays.enqueue rfl, h.app, h.taken, ?_⟩
  rw [Rehearsal.tasks, Rehearsal.enqueue, List.filterMap_append]
  exact h.tasks.append (.refl _)

theorem tasks_enqueue (r : Rehearsal α) (ho : turn.operation? = none) :
    (r.enqueue turn).tasks = r.tasks := by
  rw [Rehearsal.tasks, Rehearsal.enqueue, List.filterMap_append, List.filterMap_cons_none ho,
    List.filterMap_nil, List.append_nil]
  rfl

/-- The catalog and what waits in the background may have changed, but for the tasks. -/
theorem Shows.replayed (h : Shows r t) (hp : Plays q u) (ha : q.app = r.app)
    (ht : q.snapshotsTaken = r.snapshotsTaken) (hq : q.tasks = r.tasks) :
    Shows q { t with traffic := u } := by
  refine ⟨hp, h.app.trans ha.symm, h.taken.trans ht.symm, ?_⟩
  rw [hq]
  exact h.tasks

/-- A change of the session may leave a reload of the follower to be begun. -/
theorem Shows.changeSession {change : SessionStore Desk → Option (SessionStore Desk)}
    {v : SessionStore Desk} (h : Shows r t) (hc : change r.sessions = some v)
    (hp : Plays (r.changeSession change) u) :
    Shows (r.changeSession change) { t with traffic := u } := by
  have htasks : (r.changeSession change).tasks = r.tasks := by
    rw [changeSession_eq hc]
    rcases summons_eq v r with he | ⟨id, he⟩ <;> simp [Rehearsal.tasks, he, Turn.operation?]
  rw [changeSession_eq hc] at hp htasks ⊢
  exact h.replayed hp rfl rfl htasks

theorem Shows.enter (h : Shows r t) (v : Session) :
    ∃ u, Outdates t.traffic u ∧ Shows (r.enter v) { t with traffic := u } := by
  obtain ⟨w, hw, htold⟩ := h.plays.sole.enter (v := v) (c := r.calling) 1 rfl
  obtain ⟨u, hu, hp⟩ := h.plays.changeSession hw htold
  exact ⟨u, hu, h.changeSession hw hp⟩

theorem Shows.leave (h : Shows r t) :
    ∃ u, Outdates t.traffic u ∧ Shows r.leave { t with traffic := u } := by
  obtain ⟨w, hw, htold⟩ := h.plays.sole.leave (c := r.calling) 1 rfl
  obtain ⟨u, hu, hp⟩ := h.plays.changeSession hw htold
  exact ⟨u, hu, h.changeSession hw hp⟩

theorem Shows.release (h : Shows r t) (gate : String) : Shows (r.release gate) t := by
  have hp := h.plays.release gate
  rcases release_cases gate r with hr | ⟨js, job, js', -, hr⟩
  · rw [hr] at hp ⊢
    exact h.replayed hp rfl rfl rfl
  · rw [hr] at hp ⊢
    exact h.replayed hp rfl rfl (tasks_enqueue _ rfl)

theorem Shows.settleAll (tickets : List UInt64) (h : Shows r t) :
    Shows (tickets.foldl (fun r ticket => r.enqueue (.settle ticket)) r) t := by
  induction tickets generalizing r with
  | nil => exact h
  | cons ticket tickets ih =>
    exact ih (h.replayed (h.plays.enqueue rfl) rfl rfl (tasks_enqueue r rfl))

theorem Shows.advance (h : Shows r t) (span : Nanos) :
    Shows (r.advance span)
      { t with traffic := { t.traffic with now := t.traffic.now + span } } := by
  have hwait : Shows { r with now := r.now + span }
      { t with traffic := { t.traffic with now := t.traffic.now + span } } :=
    h.replayed ⟨h.plays.catalog, congrArg (· + span) h.plays.now, h.plays.pledges, h.plays.sole⟩
      rfl rfl rfl
  exact hwait.settleAll _

variable [Length α]

/-- One state of the terminal leads to another, against a backend of which nothing is expected. -/
abbrev Runs : Terminal α → Terminal α → Prop := Relation.ReflTransGen (Terminal.Step anyConduct)

theorem runs_of_continues (t : Terminal α) (h : Relation.ReflTransGen Continues t.traffic u) :
    Runs t { t with traffic := u } := by
  induction h with
  | refl => exact .refl
  | tail _ hs ih =>
    obtain ⟨a, hs, hn⟩ := hs
    exact ih.tail (.traffic hs hn)

/-- An operation has gone as far as it can. -/
theorem Spares.shows (hs : Spares r q) (ha : t.app = r.app) (ht : t.taken = r.snapshotsTaken)
    (htasks : r.tasks.Subperm t.tasks)
    (hu : Relation.ReflTransGen Continues t.traffic u) (hq : Plays q u) :
    ∃ t', Runs t t' ∧ Shows q t' := by
  have hruns := runs_of_continues t hu
  rcases hs.tasks with hsame | hmore
  · refine ⟨_, hruns, hq, ha.trans hs.app.symm, ht.trans hs.taken.symm, ?_⟩
    rw [hsame]
    exact htasks
  · refine ⟨_, hruns.tail .call, hq, ha.trans hs.app.symm, ht.trans hs.taken.symm, ?_⟩
    rw [hmore]
    exact ((List.subperm_cons _).mpr htasks).trans (List.perm_append_singleton _ _).symm.subperm

section Turns

/-- A turn that begins nothing. -/
theorem Shows.turn_aside (h : Shows r t) (hq : r.queue = turn :: turns)
    (hb : r.begins? turn = none)
    (hs : Spares { r with queue := turns }
      (({ r with queue := turns } : Rehearsal α).takeTurn turn)) :
    ∃ t', Runs t t' ∧ Shows (({ r with queue := turns } : Rehearsal α).takeTurn turn) t' := by
  obtain ⟨u, hu, hplays⟩ := h.plays.takeTurn hq
  rw [hb] at hu
  exact hs.shows h.app h.taken (h.dequeue hq) hu hplays

/-- An operation begins that was among the tasks. -/
theorem Shows.turn_start {op : Operation} {xs ys : List Operation} (h : Shows r t)
    (hq : r.queue = turn :: turns) (hb : r.begins? turn = some op)
    (hn : ∀ ticket, turn ≠ .settle ticket) (hs : t.tasks = xs ++ op :: ys)
    (hrest : ({ r with queue := turns } : Rehearsal α).tasks.Subperm (xs ++ ys)) :
    ∃ t', Runs t t' ∧ Shows (({ r with queue := turns } : Rehearsal α).takeTurn turn) t' := by
  obtain ⟨u, hu, hplays⟩ := h.plays.takeTurn hq
  rw [hb] at hu
  obtain ⟨t', ht', hshows⟩ := (spares_takeTurn turn { r with queue := turns } hn).shows
    (t := { t with tasks := xs ++ ys, traffic := t.traffic.start op }) h.app h.taken hrest hu hplays
  exact ⟨t', .head (.run hs) ht', hshows⟩

/-- A text that has waited long enough decides. -/
theorem Shows.turn_settle {ticket : UInt64} (h : Shows r t) (hq : r.queue = .settle ticket :: turns)
    (hd : ticket ∈ r.app.surface.debouncer.due r.now) :
    ∃ t', Runs t t' ∧
      Shows (({ r with queue := turns } : Rehearsal α).takeTurn (.settle ticket)) t' := by
  obtain ⟨u, hu, hplays⟩ := h.plays.takeTurn hq
  obtain ⟨w, hw, rfl⟩ := List.mem_map.mp hd
  obtain ⟨hmem, hdue⟩ := List.mem_filter.mp hw
  have hstep : Terminal.Step anyConduct t (t.settle w.ticket) := by
    refine .settle ?_ ?_
    · rw [Terminal.debouncer, h.app]
      exact hmem
    · rw [h.plays.now]
      exact of_decide_eq_true hdue
  let d := r.app.surface.debouncer.decide w.ticket
  let r₁ : Rehearsal α :=
    { r with
      queue := turns
      app := { r.app with surface := { r.app.surface with debouncer := d.2 } } }
  have hspares : Spares r₁
      (({ r with queue := turns } : Rehearsal α).takeTurn (.settle w.ticket)) := by
    rw [Rehearsal.takeTurn, Rehearsal.settle, if_pos hd]
    dsimp only
    split
    · exact spares_launch .surface _ r₁
    · exact .refl r₁
  have happ : (t.settle w.ticket).app = r₁.app := by
    rw [Terminal.settle, Terminal.debouncer, h.app]
  have htraffic : (t.settle w.ticket).traffic =
      (r.begins? (.settle w.ticket)).elim t.traffic t.traffic.start := by
    rw [Terminal.settle, Terminal.debouncer, h.app, begins?, if_pos hd]
    dsimp only
    cases (r.app.surface.debouncer.decide w.ticket).1 <;> rfl
  rw [← htraffic] at hu
  obtain ⟨t', ht', hshows⟩ := hspares.shows happ h.taken (h.dequeue hq) hu hplays
  exact ⟨t', .head hstep ht', hshows⟩

theorem Shows.takeTurn (h : Shows r t) (hq : r.queue = turn :: turns) :
    ∃ t', Runs t t' ∧ Shows (({ r with queue := turns } : Rehearsal α).takeTurn turn) t' := by
  have hspares := spares_takeTurn turn { r with queue := turns }
  cases turn with
  | start caller op =>
    cases ha : r.isAlive caller with
    | true =>
      have htasks := h.tasks
      rw [Rehearsal.tasks, hq, ← List.filterMap_some (l := t.tasks)] at htasks
      obtain ⟨xs, op', ys, hs, hop, hrest⟩ := exists_of_cons_subperm htasks
      cases hop
      rw [List.filterMap_some] at hrest
      exact h.turn_start hq (by simp [begins?, ha]) (by simp) hs hrest
    | false => exact h.turn_aside hq (by simp [begins?, ha]) (hspares (by simp))
  | settle ticket =>
    by_cases hd : ticket ∈ r.app.surface.debouncer.due r.now
    · exact h.turn_settle hq hd
    · have hwaits : ({ r with queue := turns } : Rehearsal α).takeTurn (.settle ticket) =
          { r with queue := turns } := if_neg hd
      refine h.turn_aside hq (if_neg hd) ?_
      rw [hwaits]
      exact .refl _
  | resume job => exact h.turn_aside hq rfl (hspares (by simp))
  | rest id => exact h.turn_aside hq rfl (hspares (by simp))
  | reload id =>
    by_cases hf : (r.follower?.map Prod.fst) = some id
    · have hcalled : Shows r { t with tasks := t.tasks ++ [.reload] } :=
        ⟨h.plays, h.app, h.taken, h.tasks.trans (List.sublist_append_left _ _).subperm⟩
      have hrest : ({ r with queue := turns } : Rehearsal α).tasks.Subperm (t.tasks ++ []) := by
        rw [List.append_nil]
        exact h.dequeue hq
      obtain ⟨t', ht', hshows⟩ := hcalled.turn_start hq (by simp [begins?, hf]) (by simp) rfl
        hrest
      exact ⟨t', .head .call ht', hshows⟩
    · exact h.turn_aside hq (by simp [begins?, hf]) (hspares (by simp))

theorem Shows.run (n : Nat) (h : Shows r t) : ∃ t', Runs t t' ∧ Shows (r.run n) t' := by
  induction n generalizing r t with
  | zero => exact ⟨t, .refl, h⟩
  | succ n ih =>
    rw [Rehearsal.run]
    cases hq : r.queue with
    | nil => exact ⟨t, .refl, h⟩
    | cons turn turns =>
      obtain ⟨t₁, ht₁, hshows₁⟩ := h.takeTurn hq
      obtain ⟨t₂, ht₂, hshows₂⟩ := ih hshows₁
      exact ⟨t₂, ht₁.trans ht₂, hshows₂⟩

end Turns

section Cues

/-- What a key asks for is done one after the other. -/
theorem Shows.carryOut (is : List Intent) (h : Shows r t) :
    ∃ t', Runs
        { t with
          traffic := if is.any Intent.clears then t.traffic.keepOnly [] else t.traffic
          tasks := t.tasks ++ is.filterMap Intent.operation? } t' ∧
      Shows (is.foldl (fun r i => r.carryOut i) r) t' := by
  induction is generalizing r t with
  | nil =>
    refine ⟨t, ?_, h⟩
    simpa using Relation.ReflTransGen.refl
  | cons i is ih =>
    cases i with
    | work task =>
      cases task with
      | operation op =>
        obtain ⟨t', ht', hshows⟩ := ih (h.enqueue_start .surface op)
        refine ⟨t', ?_, hshows⟩
        simpa [Intent.clears, Intent.operation?] using ht'
      | settle ticket =>
        have htasks : (r.enqueue (.settle ticket)).tasks = r.tasks := tasks_enqueue r rfl
        exact ih (h.replayed (h.plays.enqueue rfl) rfl rfl htasks)
    | clearCache =>
      have hcleared : Shows (r.carryOut .clearCache) { t with traffic := t.traffic.keepOnly [] } :=
        ⟨h.plays.clear, h.app, h.taken, h.tasks⟩
      obtain ⟨t', ht', hshows⟩ := ih hcleared
      refine ⟨t', ?_, hshows⟩
      have hsame : (t.traffic.keepOnly []).keepOnly [] = t.traffic.keepOnly [] := rfl
      simpa [Intent.clears, List.filterMap_cons, Intent.operation?, hsame] using ht'
    | leaveSession =>
      obtain ⟨u, hu, hleft⟩ := h.leave
      obtain ⟨t', ht', hshows⟩ := ih hleft
      -- To give up the pages and to outdate them comes to the same in either order.
      have hboth : Relation.ReflTransGen Continues
          (if is.any Intent.clears then t.traffic.keepOnly [] else t.traffic)
          (if is.any Intent.clears then u.keepOnly [] else u) := by
        split
        · exact hu.keepOnly.continues
        · exact hu.continues
      exact ⟨t', (runs_of_continues
        { t with
          traffic := if is.any Intent.clears then t.traffic.keepOnly [] else t.traffic
          tasks := t.tasks ++ is.filterMap Intent.operation? } hboth).trans ht', hshows⟩
    | opened id =>
      obtain ⟨t', ht', hshows⟩ := ih (h.enqueue_start (.opening id) (.access { companionId := id }))
      refine ⟨t', ?_, hshows⟩
      simpa [Intent.clears, Intent.operation?] using ht'

theorem Shows.press (h : Shows r t) (k : KeyPress) :
    ∃ t', Runs t t' ∧ Shows (r.press k) t' := by
  let p := r.app.press r.now r.catalog k
  have hpress : t.press k =
      { t with
        app := p.app
        traffic := if p.intents.any Intent.clears then t.traffic.keepOnly [] else t.traffic
        tasks := t.tasks ++ p.intents.filterMap Intent.operation?
        calls := (t.press k).calls
        opening := (t.press k).opening } := by
    simp only [Terminal.press, h.app, h.plays.catalog, h.plays.now, p]
  have hbefore : Shows { r with app := p.app, quit := r.quit || p.quit }
      { t with app := p.app, calls := (t.press k).calls, opening := (t.press k).opening } :=
    ⟨h.plays.congr rfl rfl rfl, rfl, h.taken, h.tasks⟩
  obtain ⟨t', ht', hshows⟩ := hbefore.carryOut p.intents
  refine ⟨t', .head (.press k) ?_, hshows⟩
  rw [hpress]
  exact ht'

theorem runs_heed (now : Nanos) (es : List AppEvent) (t : Terminal α) :
    Runs t { t with app := es.foldl (fun a e => a.handleEvent now e) t.app } := by
  induction es generalizing t with
  | nil => exact .refl
  | cons e es ih =>
    exact .head (.aside (.heed now e)) (ih { t with app := t.app.handleEvent now e })

/-- The latest snapshot is taken unless it has been. -/
theorem runs_take (t : Terminal α) : Runs t
    { t with
      app := if t.traffic.catalog.publications = t.taken then t.app
        else t.app.applySnapshot t.traffic.catalog.published
      taken := t.traffic.catalog.publications } := by
  by_cases h : t.traffic.catalog.publications = t.taken
  · rw [if_pos h, h]
  · rw [if_neg h]
    exact .single .take

theorem runs_hear (now : Nanos) (session : Session) (old : Prop) [Decidable old]
    (t : Terminal α) :
    Runs t { t with app := if old then t.app else t.app.applySession now session } := by
  split
  · exact .refl
  · exact .single (.aside (.hear now session))

/-- The application takes in what has been reported, then the latest snapshot, then the latest
session. -/
theorem Shows.attend (h : Shows r t) : ∃ t', Runs t t' ∧ Shows r.attend t' := by
  unfold Rehearsal.attend
  split
  · have hheed := runs_heed r.now r.events t
    have htake := runs_take
      { t with app := r.events.foldl (fun a e => a.handleEvent r.now e) t.app }
    refine ⟨_, (hheed.trans htake).trans
      (runs_hear r.now r.sessions.watched (r.sessions.sent = r.sessionsTaken) _), ?_⟩
    refine ⟨h.plays.congr rfl rfl rfl, ?_, ?_, h.tasks⟩
    · rw [h.app, h.plays.catalog, h.taken]
    · exact congrArg Catalog.publications h.plays.catalog
  · exact ⟨t, .refl, h⟩

theorem Shows.keys (presses : List KeyPress) (h : Shows r t) :
    ∃ t', Runs t t' ∧ Shows (presses.foldl (fun r k => r.press k) r) t' := by
  induction presses generalizing r t with
  | nil => exact ⟨t, .refl, h⟩
  | cons k presses ih =>
    obtain ⟨t₁, ht₁, hshows₁⟩ := h.press k
    obtain ⟨t₂, ht₂, hshows₂⟩ := ih hshows₁
    exact ⟨t₂, ht₁.trans ht₂, hshows₂⟩

theorem Shows.take {cue : Cue α} (h : Shows r t) (n : Nat) (hc : cue.isTerminal = true) :
    ∃ t', Runs t t' ∧ Shows (r.take n cue).1 t' := by
  cases cue with
  | release gate => exact ⟨t, .refl, h.release gate⟩
  | operation op =>
    cases op with
    | reload => exact ⟨_, .single .call, h.enqueue_start (.cue n) .reload⟩
    | _ => cases hc
  | cacheClear =>
    have hclear := continues_clear t.traffic
    refine ⟨_, runs_of_continues t (.single hclear), h.plays.clear, h.app, h.taken, h.tasks⟩
  | invalidate =>
    have hstale : Outdates t.traffic _ := Or.inr rfl
    refine ⟨_, runs_of_continues t hstale.continues, ?_, h.app, h.taken, h.tasks⟩
    refine ⟨?_, h.plays.now, h.plays.pledges, h.plays.sole.congr rfl rfl rfl⟩
    rw [h.plays.catalog]
    rfl
  | advance span =>
    exact ⟨_, .single (.traffic (.step (.wait t.traffic span)) nofun), h.advance span⟩
  | follow => exact ⟨t, .refl, h.replayed h.plays.follow rfl rfl (tasks_enqueue _ rfl)⟩
  | unfollow => exact ⟨t, .refl, h.replayed h.plays.unfollow rfl rfl rfl⟩
  | enter session =>
    obtain ⟨u, hu, hshows⟩ := h.enter session
    exact ⟨_, runs_of_continues t hu.continues, hshows⟩
  | leave =>
    obtain ⟨u, hu, hshows⟩ := h.leave
    exact ⟨_, runs_of_continues t hu.continues, hshows⟩
  | keys presses => exact h.keys presses
  | resize container =>
    refine ⟨_, .single (.aside (.resize container)), ?_, ?_, h.taken, h.tasks⟩
    · exact h.plays.congr rfl rfl rfl
    · rw [h.app]
      rfl
  | render width height =>
    have hp : Plays (r.take n (.render width height)).1 t.traffic :=
      h.plays.congr rfl rfl rfl
    rcases App.draw_app r.date width height r.app with hsame | hnew
    · exact ⟨t, .refl, h.replayed hp hsame rfl rfl⟩
    · let container : α := Length.ofIndex (UInt64.ofNat (height - 2 - 2))
      refine ⟨_, .single (.aside (.resize container)), hp, ?_, h.taken, h.tasks⟩
      rw [h.app]
      exact hnew.symm
  | nothing => exact ⟨t, .refl, h⟩
  | lookUp id => exact ⟨t, .refl, h⟩
  | isPending id => exact ⟨t, .refl, h⟩
  | answer script =>
    have hp : Plays (r.take n (.answer script)).1 t.traffic :=
      h.plays.congr rfl rfl rfl
    exact ⟨t, .refl, h.replayed hp rfl rfl rfl⟩
  | panicked task =>
    have hp : Plays (r.take n (.panicked task)).1 t.traffic :=
      h.plays.congr rfl rfl rfl
    exact ⟨t, .refl, h.replayed hp rfl rfl rfl⟩
  | _ => cases hc

theorem Shows.play {cue : Cue α} (h : Shows r t) (n : Nat) (hc : cue.isTerminal = true) :
    ∃ t', Runs t t' ∧ Shows (r.play n cue).1 t' := by
  have hdrawn : Shows
      { r with calls := [], ended := [], app := { r.app with needsRedraw := false } }
      { t with app := { t.app with needsRedraw := false } } := by
    refine ⟨h.plays.congr rfl rfl rfl, ?_, h.taken, h.tasks⟩
    rw [h.app]
  obtain ⟨t₁, ht₁, hshows₁⟩ := hdrawn.take n hc
  obtain ⟨t₂, ht₂, hshows₂⟩ := hshows₁.run _
  obtain ⟨t₃, ht₃, hshows₃⟩ := hshows₂.attend
  exact ⟨t₃, .head (.aside .drawn) ((ht₁.trans ht₂).trans ht₃), hshows₃⟩

end Cues

/-- The terminal before the first key. -/
structure Opens (r : Rehearsal α) : Prop where
  fresh : Fresh r
  taken : r.snapshotsTaken = 0
  latest : r.app.surface.debouncer.latest = 0
  waiting : r.app.surface.debouncer.waiting = []
  app : ∃ surface session needsRedraw,
    r.app = { surface, snapshot := r.catalog.published, session, needsRedraw }

/-- A terminal that starts as the rehearsal does. -/
theorem Opens.shows (h : Opens r) : ∃ t, Terminal.Reachable anyConduct t ∧ Shows r t := by
  obtain ⟨surface, session, needsRedraw, ha⟩ := h.app
  have hl := h.latest
  have hw := h.waiting
  rw [ha] at hl hw
  have hinitial : Terminal.Initial
      { app := { surface, snapshot := r.catalog.published, session }, traffic := r.opening } :=
    ⟨r.opening, surface, session, h.fresh.initial, hl, hw, rfl⟩
  have htasks : r.tasks = [] := by
    rw [Rehearsal.tasks, h.fresh.queue]
    rfl
  refine ⟨{ app := r.app, traffic := r.opening }, ⟨_, hinitial, ?_⟩, h.fresh.plays, rfl,
    h.taken.symm, by rw [htasks]⟩
  rw [ha]
  cases needsRedraw with
  | false => exact .single (.aside .drawn)
  | true => exact .refl

omit [Length α] in
/-- A new program opens. -/
theorem opens_new (date : Moment) (ttl : Nanos) (capacity : Nat) (pageLimit searchLimit : UInt32)
    (surface : Surface α) (session : Session) (hl : surface.debouncer.latest = 0)
    (hw : surface.debouncer.waiting = []) :
    let catalog := Catalog.withLimits (.ofCapacity ttl capacity) pageLimit searchLimit
    Opens
      { date
        sessions := { memory := { catalog } }
        app := { surface, snapshot := catalog.published, session, needsRedraw := false } } :=
  ⟨⟨⟨_, _, _, _, rfl⟩, rfl, rfl, rfl, rfl⟩, rfl, hl, hw, _, _, _, rfl⟩

theorem Shows.playAll {cues : List (Nat × Cue α)} (h : Shows r t)
    (hc : ∀ c ∈ cues, c.2.isTerminal = true) :
    ∃ t', Runs t t' ∧ Shows (r.playAll cues) t' := by
  induction cues generalizing r t with
  | nil => exact ⟨t, .refl, h⟩
  | cons c cues ih =>
    simp only [List.mem_cons, forall_eq_or_imp] at hc
    obtain ⟨t₁, ht₁, hshows₁⟩ := h.play c.1 hc.1
    obtain ⟨t₂, ht₂, hshows₂⟩ := ih hshows₁ hc.2
    exact ⟨t₂, ht₁.trans ht₂, hshows₂⟩

/-- Whatever is played of what can happen to the terminal, the application and the catalog stand as
in a run of the terminal. -/
theorem terminal_playAll (h : Opens r) {cues : List (Nat × Cue α)}
    (hc : ∀ c ∈ cues, c.2.isTerminal = true) :
    ∃ t, Terminal.Reachable anyConduct t ∧ Shows (r.playAll cues) t := by
  obtain ⟨t, ⟨t₀, h₀, hr⟩, hshows⟩ := h.shows
  obtain ⟨t', ht', hshows'⟩ := hshows.playAll hc
  exact ⟨t', ⟨t₀, h₀, hr.trans ht'⟩, hshows'⟩

end Rehearsal
end Companions
