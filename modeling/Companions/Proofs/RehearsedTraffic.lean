import Companions.Proofs.LateReplies
import Companions.Rehearsal
import Mathlib.Data.List.Perm.Subperm

/-! A rehearsal is a run of the catalog in traffic. A script may hold any reply, so that nothing is
expected of the backend; the reply to an operation of a dropped follower never arrives. -/
namespace Companions

/-- A backend of which nothing is expected. -/
def anyConduct : Conduct := fun _ _ _ _ => True

/-- Anything happens in the traffic but the start of an operation. -/
def Continues (s t : Traffic) : Prop := ∃ a, LateStep anyConduct s a t ∧ ∀ op, a ≠ .start op

theorem Continues.leads {s t : Traffic} (h : Continues s t) : Leads anyConduct s t :=
  h.imp fun _ h => h.1

/-- And no reply arrives to one of the first `m` tickets. -/
def GoesOn (m : Nat) (s t : Traffic) : Prop :=
  ∃ a, LateStep anyConduct s a t ∧ (∀ op, a ≠ .start op) ∧
    ∀ e, a = .land e → e.HasTicket → m < e.ticket

theorem continues_of_goesOn {m : Nat} {s t : Traffic}
    (h : Relation.ReflTransGen (GoesOn m) s t) : Relation.ReflTransGen Continues s t :=
  Relation.ReflTransGen.mono (fun _ _ ⟨a, hs, hn, _⟩ => ⟨a, hs, hn⟩) s t h

theorem leads_of_continues {s t : Traffic} (h : Relation.ReflTransGen Continues s t) :
    Relation.ReflTransGen (Leads anyConduct) s t :=
  Relation.ReflTransGen.mono (fun _ _ h => h.leads) s t h

/-- All pages are declared out of date, or nothing happens. -/
def Outdates (s t : Traffic) : Prop :=
  t = s ∨ t = { s with catalog := s.catalog.outdate, epochs := s.epochs + 1 }

theorem Outdates.continues {s t : Traffic} (h : Outdates s t) :
    Relation.ReflTransGen Continues s t := by
  rcases h with rfl | rfl
  · exact .refl
  · exact .single ⟨.outdate, .step (.outdate s), nofun⟩

/-- Pages that are outdated are given up anyway. -/
theorem Outdates.keepOnly {s t : Traffic} (h : Outdates s t) :
    Outdates (s.keepOnly []) (t.keepOnly []) := by
  rcases h with rfl | rfl
  · exact Or.inl rfl
  · exact Or.inr rfl

theorem continues_clear (s : Traffic) : Continues s (s.keepOnly []) :=
  ⟨.evict [], .step (.evict (List.nil_sublist _)), nofun⟩

/-- What an operation waits for, and the reply that it will be given. -/
abbrev Pledge := (w : Await) × w.Reply

def Job.pledge (j : Job) : Pledge := ⟨j.await, j.reply⟩

def Turn.pledge? : Turn → Option Pledge
  | resume job => some job.pledge
  | start _ _ | settle _ | rest _ | reload _ => none

def Errand.pledge? (e : Errand) : Option Pledge := e.answer.map fun a => ⟨e.await, a.1⟩

/-- The request of an operation that waits was the last to be sent, and is for none of the first `m`
tickets. -/
def Progress.SentLast (m : Nat) (p : Progress) (s : Traffic) : Prop :=
  ∃ xs ticket epoch before, s.errands = xs ++ p.errands ticket epoch before ∧
    ∀ r w, p = .asks r w → w.ticket?.isSome → m < ticket

theorem Progress.SentLast.mono {m n : Nat} {p : Progress} {s : Traffic} (h : p.SentLast n s)
    (hm : m ≤ n) : p.SentLast m s := by
  obtain ⟨xs, ticket, epoch, before, hs, hlater⟩ := h
  exact ⟨xs, ticket, epoch, before, hs, fun r w hp hw => hm.trans_lt (hlater r w hp hw)⟩

theorem Catalog.quest?_of_start {now : Nanos} {op : Operation} {c : Catalog} {r : Request}
    {w : Await} (h : (c.start now op).2 = .asks r w) (hw : w.ticket?.isSome) :
    (op.quest? c).isSome := by
  cases hq : op.quest? c with
  | some q => rfl
  | none =>
    rcases start_of_quest?_none now hq with ⟨id, rfl⟩ | ⟨r', w', hs, ht, -⟩
    · rw [show c.start now (.toggle id) = c.beginToggle id from rfl] at h
      rcases beginToggle_cases id c with ⟨out, hs⟩ | ⟨b, -, -, hs⟩
      · rw [hs] at h
        cases h
      · rw [hs] at h
        cases h
        cases hw
    · rw [hs] at h
      cases h
      rw [ht] at hw
      cases hw

theorem Catalog.quest?_of_resume {now : Nanos} {w w' : Await} {reply : w.Reply} {c : Catalog}
    {r : Request} (h : (c.resume now w reply).2 = .asks r w') : (w.quest? reply).isSome := by
  cases w with
  | order =>
    cases reply with
    | ok => rfl
    | error => cases h
  | _ => cases h

theorem Progress.filterMap_errands (p : Progress) (ticket epoch : Nat) (before : Finset Int64) :
    (p.errands ticket epoch before).filterMap Errand.pledge? = [] := by
  cases p <;> rfl

theorem exists_of_cons_subperm {β γ : Type} {f : β → Option γ} {bs : List β} {c : γ}
    {cs : List γ} (h : (c :: cs).Subperm (bs.filterMap f)) :
    ∃ xs b ys, bs = xs ++ b :: ys ∧ f b = some c ∧ cs.Subperm ((xs ++ ys).filterMap f) := by
  obtain ⟨b, hb, hc⟩ := List.mem_filterMap.mp (h.subset List.mem_cons_self)
  obtain ⟨xs, ys, rfl⟩ := List.append_of_mem hb
  have hperm : ((xs ++ b :: ys).filterMap f).Perm (c :: (xs ++ ys).filterMap f) := by
    rw [List.filterMap_append, List.filterMap_cons_some hc, List.filterMap_append]
    exact List.perm_middle
  exact ⟨xs, b, ys, rfl, hc, (List.subperm_cons c).mp (h.trans hperm.subperm)⟩

/-- A reply that was pledged is on its way. -/
theorem exists_errand {es : List Errand} {p : Pledge} {ps : List Pledge}
    (h : (p :: ps).Subperm (es.filterMap Errand.pledge?)) :
    ∃ xs e ys reply taken, es = xs ++ e :: ys ∧ e.answer = some (reply, taken) ∧
      p = ⟨e.await, reply⟩ ∧ ps.Subperm ((xs ++ ys).filterMap Errand.pledge?) := by
  obtain ⟨xs, e, ys, hs, hp, hrest⟩ := exists_of_cons_subperm h
  obtain ⟨⟨reply, taken⟩, ha, hpe⟩ := Option.map_eq_some_iff.mp hp
  exact ⟨xs, e, ys, reply, taken, hs, ha, hpe.symm, hrest⟩

namespace Desk

variable {c : SessionStore.Calling Desk} {s t : SessionStore Desk} {v : Session} {n : Nat}

/-- The subscription of the follower. -/
def subscription? (d : Desk) : Option Nat := d.follower.map Prod.fst

/-- The follower's listener is the only one. -/
structure Sole (s : SessionStore Desk) : Prop where
  listeners : s.listeners = (s.memory.subscription?.map fun id => (id, heed)).toList
  lt : ∀ id ∈ s.memory.subscription?, id < s.nextId

theorem Sole.congr (h : Sole s) (hl : t.listeners = s.listeners) (hn : t.nextId = s.nextId)
    (hf : t.memory.subscription? = s.memory.subscription?) : Sole t := by
  refine ⟨?_, ?_⟩
  · rw [hl, hf]
    exact h.listeners
  · rw [hn, hf]
    exact h.lt

theorem subscription?_sessionChanged (d : Desk) :
    d.sessionChanged.subscription? = d.subscription? := by
  obtain ⟨catalog, follower⟩ := d
  cases follower <;> rfl

/-- The session may have changed once, and the follower has heard of it if there is one. -/
structure Told (s t : SessionStore Desk) : Prop where
  sole : Sole t
  memory : t.memory = s.memory ∧ (s.memory.follower.isSome → t.sent = s.sent) ∨
    t.memory = s.memory.sessionChanged ∧ s.memory.follower.isSome ∧ t.sent = s.sent + 1

theorem Sole.notify (h : Sole s) (n : Nat) (hc : c.arrange = id) :
    ∃ t, SessionStore.notify c (n + 1) v (s.replace v) = some t ∧ Told s t := by
  have hlisteners : c.arrange s.listeners = _ := (congrFun hc _).trans h.listeners
  have hnotify : SessionStore.notify c (n + 1) v (s.replace v) = _ :=
    congrArg (List.foldlM _ (s.replace v)) hlisteners
  rw [hnotify, subscription?]
  cases hf : s.memory.follower with
  | none => exact ⟨s.replace v, rfl, h.congr rfl rfl rfl, Or.inl ⟨rfl, by simp [hf]⟩⟩
  | some f =>
    refine ⟨{ s.replace v with memory := s.memory.sessionChanged }, rfl, ?_,
      Or.inr ⟨rfl, by simp [hf], rfl⟩⟩
    exact h.congr rfl rfl (subscription?_sessionChanged _)

theorem Sole.enter (h : Sole s) (n : Nat) (hc : c.arrange = id) :
    ∃ t, SessionStore.enter c (n + 1) v s = some t ∧ Told s t := h.notify n hc

theorem Sole.leave (h : Sole s) (n : Nat) (hc : c.arrange = id) :
    ∃ t, SessionStore.leave c (n + 1) s = some t ∧ Told s t := by
  unfold SessionStore.leave SessionStore.leaveWith
  split
  · exact h.notify n hc
  · exact ⟨s, rfl, h, Or.inl ⟨rfl, fun _ => rfl⟩⟩

theorem Sole.follow (h : Sole s) : Sole (Desk.follow s) := by
  have hl := h.listeners
  have hlt := h.lt
  rw [subscription?] at hl hlt
  unfold Desk.follow
  cases hf : s.memory.follower with
  | none =>
    rw [hf] at hl
    refine ⟨?_, ?_⟩
    · simp [SessionStore.subscribe, subscription?, hf, hl]
    · simp [SessionStore.subscribe, subscription?, hf]
  | some f =>
    rw [hf] at hl hlt
    have hne : s.nextId ≠ f.1 := Nat.ne_of_gt (hlt f.1 rfl)
    refine ⟨?_, ?_⟩
    · simp [SessionStore.subscribe, SessionStore.unsubscribe, subscription?, hf, hl, hne]
    · simp [SessionStore.subscribe, SessionStore.unsubscribe, subscription?, hf]

theorem Sole.unfollow (h : Sole s) : Sole (Desk.unfollow s) := by
  have hl := h.listeners
  rw [subscription?] at hl
  unfold Desk.unfollow
  cases hf : s.memory.follower with
  | none => exact h
  | some f =>
    rw [hf] at hl
    refine ⟨?_, ?_⟩
    · simp [SessionStore.unsubscribe, subscription?, hl]
    · simp [subscription?]

theorem catalog_follow (s : SessionStore Desk) :
    (Desk.follow s).memory.catalog = s.memory.catalog := by
  unfold Desk.follow
  cases hf : s.memory.follower <;>
    simp [SessionStore.subscribe, SessionStore.unsubscribe, hf]

theorem catalog_unfollow (s : SessionStore Desk) :
    (Desk.unfollow s).memory.catalog = s.memory.catalog := by
  unfold Desk.unfollow
  cases s.memory.follower <;> rfl

end Desk

namespace Rehearsal

variable {α : Type} {r : Rehearsal α} {s : Traffic} {caller : Caller} {n : Nat} {p : Progress}

/-- The replies held back at the gates, and those that are about to arrive. -/
def pledges (r : Rehearsal α) : List Pledge :=
  r.jobs.map Job.pledge ++ r.queue.filterMap Turn.pledge?

/-- The catalog stands as in the traffic, where every reply that was pledged is on its way. -/
structure Plays (r : Rehearsal α) (s : Traffic) : Prop where
  catalog : s.catalog = r.catalog
  now : s.now = r.now
  pledges : r.pledges.Subperm (s.errands.filterMap Errand.pledge?)
  sole : Desk.Sole r.sessions

/-- The rest of a rehearsal plays no part. -/
theorem Plays.congr {q : Rehearsal α} (h : Plays r s) (hs : q.sessions = r.sessions)
    (hn : q.now = r.now) (hp : q.pledges = r.pledges) : Plays q s := by
  refine ⟨?_, h.now.trans hn.symm, ?_, hs ▸ h.sole⟩
  · rw [Rehearsal.catalog, hs]
    exact h.catalog
  · rw [hp]
    exact h.pledges

theorem Plays.enqueue {turn : Turn} (h : Plays r s) (hn : turn.pledge? = none) :
    Plays (r.enqueue turn) s := by
  refine ⟨h.catalog, h.now, ?_, h.sole⟩
  have hq : (r.enqueue turn).pledges = r.pledges := by
    simp [Rehearsal.pledges, Rehearsal.enqueue, hn]
  rw [hq]
  exact h.pledges

theorem Plays.withFollower {id : Nat} {f g : Follower} (h : Plays r s)
    (hf : r.follower? = some (id, f)) : Plays (r.withFollower (some (id, g))) s := by
  refine ⟨h.catalog, h.now, h.pledges, h.sole.congr rfl rfl ?_⟩
  exact (congrArg (Option.map Prod.fst) hf).symm

theorem Plays.rest (h : Plays r s) (id : Nat) : Plays (r.rest id) s := by
  unfold Rehearsal.rest
  split
  · rename_i current f hf
    split
    · rename_i hid
      subst hid
      have hw := h.withFollower (g := f.finish.2) hf
      dsimp only
      split
      · exact hw.congr rfl rfl rfl
      · exact hw
    · exact h
  · exact h

theorem Plays.finish (h : Plays r s) (caller : Caller) (out : Outcome) :
    Plays (r.finish caller out) s := by
  unfold Rehearsal.finish
  cases caller with
  | cue n => exact h.congr rfl rfl rfl
  | surface => exact h
  | follower id => exact h.rest id
  | opening id => cases out <;> exact h.congr rfl rfl rfl

/-- An operation goes on with a reply. -/
def goOn (caller : Caller) (n : Nat) (w : Await) (reply : w.Reply) (r : Rehearsal α) :
    Rehearsal α :=
  pursue caller n (r.catalog.resume r.now w reply).2
    (r.withCatalog (r.catalog.resume r.now w reply).1)

/-- An operation that asks the backend is answered at once, or waits at a gate. -/
theorem pursue_asks (caller : Caller) (n : Nat) (request : Request) (w : Await)
    (r : Rehearsal α) :
    ∃ script openings calls reply,
      r.pursue caller (n + 1) (.asks request w) =
          ({ r with script, openings, calls } : Rehearsal α).goOn caller n w reply ∨
        ∃ gate, r.pursue caller (n + 1) (.asks request w) =
          { r with script, openings, calls, jobs := r.jobs ++ [⟨caller, gate, w, reply⟩] } := by
  unfold Rehearsal.pursue
  obtain ⟨⟨gate, reply⟩, script⟩ := r.script.next w
  cases gate with
  | none => exact ⟨script, _, _, reply, Or.inl rfl⟩
  | some gate =>
    dsimp only
    split
    · exact ⟨script, _, _, reply, Or.inl rfl⟩
    · exact ⟨script, _, _, reply, Or.inr ⟨gate, rfl⟩⟩

/-- A reply arrives, and the operation that waited for it goes on. -/
theorem Plays.land {e : Errand} {xs ys : List Errand} {reply : e.await.Reply}
    {taken : Finset Int64} (hs : s.errands = xs ++ e :: ys) (ha : e.answer = some (reply, taken))
    (h : Plays r { s with errands := xs ++ ys }) :
    ∃ t, LateStep anyConduct s (.land e) t ∧
      (r.catalog.resume r.now e.await reply).2.SentLast s.tickets t ∧
      Plays (r.withCatalog (r.catalog.resume r.now e.await reply).1) t := by
  have hc : s.catalog = r.catalog := h.catalog
  have hn : s.now = r.now := h.now
  refine ⟨_, .land hs ha, ?_, ?_⟩
  · rw [← hc, ← hn]
    refine ⟨_, _, _, _, rfl, fun r w hp _ => ?_⟩
    rw [if_pos (Catalog.quest?_of_resume hp)]
    exact Nat.lt_succ_self _
  · refine ⟨by rw [← hc, ← hn]; rfl, hn, ?_, h.sole.congr rfl rfl rfl⟩
    simp only [Traffic.land, Traffic.proceed, List.filterMap_append, Progress.filterMap_errands,
      List.append_nil]
    rw [← List.filterMap_append]
    exact h.pledges

/-- The backend gives a reply to the request that was sent last. -/
theorem Plays.answer {xs : List Errand} {request : Request} {w : Await} {ticket epoch : Nat}
    {before : Finset Int64} (h : Plays r s)
    (hs : s.errands = xs ++ (Progress.asks request w).errands ticket epoch before)
    (reply : w.Reply) :
    Step anyConduct s (.answer { request, await := w, ticket, epoch, before })
        { s with
          errands := xs ++
            [{ request, await := w, answer := some (reply, s.held), ticket, epoch, before }] } ∧
      Plays r { s with errands := xs ++ [] } := by
  refine ⟨.answer hs rfl trivial, h.catalog, h.now, ?_, h.sole⟩
  have hpledges := h.pledges
  rw [hs, List.filterMap_append, Progress.filterMap_errands] at hpledges
  rwa [List.filterMap_append, List.filterMap_nil]

/-- An operation waits at a gate, with a reply that is on its way. -/
theorem Plays.wait {e : Errand} {xs ys : List Errand} {reply : e.await.Reply}
    {taken : Finset Int64} (hs : s.errands = xs ++ e :: ys) (ha : e.answer = some (reply, taken))
    (h : Plays r { s with errands := xs ++ ys }) (gate : String) :
    Plays { r with jobs := r.jobs ++ [⟨caller, gate, e.await, reply⟩] } s := by
  refine ⟨h.catalog, h.now, ?_, h.sole⟩
  let p := Job.pledge ⟨caller, gate, e.await, reply⟩
  have hp : e.pledge? = some p := by
    rw [Errand.pledge?, ha]
    rfl
  have hnew : ({ r with jobs := r.jobs ++ [⟨caller, gate, e.await, reply⟩] } :
      Rehearsal α).pledges.Perm (p :: r.pledges) := by
    simp only [Rehearsal.pledges, List.map_append, List.map_cons, List.map_nil, List.append_assoc]
    exact List.perm_middle
  have hold : (s.errands.filterMap Errand.pledge?).Perm
      (p :: (xs ++ ys).filterMap Errand.pledge?) := by
    rw [hs, List.filterMap_append, List.filterMap_cons_some hp, List.filterMap_append]
    exact List.perm_middle
  exact hnew.subperm.trans (((List.subperm_cons p).mpr h.pledges).trans hold.symm.subperm)

/-- An operation is followed until it ends or has to wait. -/
theorem Plays.pursue {m : Nat} (caller : Caller) (n : Nat) (h : Plays r s) (hp : p.SentLast m s)
    (hm : m ≤ s.tickets) :
    ∃ t, Relation.ReflTransGen (GoesOn m) s t ∧ Plays (r.pursue caller n p) t := by
  induction n generalizing r s p with
  | zero =>
    cases p with
    | ends out => exact ⟨s, .refl, h.finish caller out⟩
    | asks request w => exact ⟨s, .refl, h⟩
  | succ n ih =>
    cases p with
    | ends out => exact ⟨s, .refl, h.finish caller out⟩
    | asks request w =>
      obtain ⟨xs, ticket, epoch, before, hs, hlater⟩ := hp
      obtain ⟨script, openings, calls, reply, hgoes⟩ := pursue_asks caller n request w r
      obtain ⟨hstep, hdrop⟩ := h.answer hs reply
      let e : Errand :=
        { request, await := w, answer := some (reply, s.held), ticket, epoch, before }
      let u : Traffic := { s with errands := xs ++ [e] }
      have hanswer : GoesOn m s u := ⟨_, .step hstep, nofun, fun _ he => nomatch he⟩
      have hu : u.errands = xs ++ e :: [] := rfl
      have ha : e.answer = some (reply, s.held) := rfl
      have hdrop : Plays { r with script, openings, calls } { u with errands := xs ++ [] } :=
        hdrop.congr rfl rfl rfl
      rcases hgoes with hgoes | ⟨gate, hgoes⟩
      · obtain ⟨t, hut, hsent, ht⟩ := Plays.land hu ha hdrop
        have hland : GoesOn m u t := by
          refine ⟨_, hut, nofun, ?_⟩
          intro e' he hw
          cases he
          have hw : w.ticket?.isSome := hw
          exact show m < ticket from hlater request w rfl hw
        have hmu : m ≤ u.tickets := hm
        obtain ⟨t', htt', ht'⟩ := ih ht (hsent.mono hmu) (hmu.trans hut.tickets_le)
        rw [hgoes]
        exact ⟨t', .head hanswer (.head hland htt'), ht'⟩
      · rw [hgoes]
        exact ⟨u, .single hanswer, Plays.wait hu ha hdrop gate⟩

theorem Plays.start (h : Plays r s) (op : Operation) :
    Plays (r.withCatalog (r.catalog.start r.now op).1) (s.start op) ∧
      (r.catalog.start r.now op).2.SentLast s.tickets (s.start op) := by
  rw [← h.catalog, ← h.now]
  refine ⟨⟨rfl, h.now, ?_, h.sole.congr rfl rfl rfl⟩, _, _, _, _, rfl, fun r w hp hw => ?_⟩
  · simp only [Traffic.start, Traffic.proceed, List.filterMap_append, Progress.filterMap_errands,
      List.append_nil]
    exact h.pledges
  · rw [if_pos (Catalog.quest?_of_start hp hw)]
    exact Nat.lt_succ_self _

theorem tickets_le_start (s : Traffic) (op : Operation) : s.tickets ≤ (s.start op).tickets :=
  (LateStep.step (Step.start (k := anyConduct) s op)).tickets_le

theorem Plays.launch (h : Plays r s) (caller : Caller) (op : Operation) :
    ∃ t, Relation.ReflTransGen (GoesOn s.tickets) (s.start op) t ∧
      Plays (r.launch caller op) t := by
  obtain ⟨hbegun, hsent⟩ := h.start op
  exact hbegun.pursue caller callsPerOperation hsent (tickets_le_start s op)

section Turns

variable {turn : Turn} {turns : List Turn}

/-- The operation that a turn begins. -/
def begins? (turn : Turn) (r : Rehearsal α) : Option Operation :=
  match turn with
  | .start caller op => if r.isAlive caller then some op else none
  | .settle ticket =>
    if ticket ∈ r.app.surface.debouncer.due r.now then
      (r.app.surface.debouncer.decide ticket).1.map .search
    else none
  | .reload id =>
    if (r.follower?.map Prod.fst) = some id then some .reload else none
  | .resume _ | .rest _ => none

theorem Plays.dequeue (h : Plays r s) (hq : r.queue = turn :: turns) :
    Plays { r with queue := turns } s := by
  refine ⟨h.catalog, h.now, ?_, h.sole⟩
  have hsub : ({ r with queue := turns } : Rehearsal α).pledges.Sublist r.pledges := by
    rw [Rehearsal.pledges, Rehearsal.pledges, hq]
    exact (List.Sublist.refl _).append ((List.sublist_cons_self _ _).filterMap _)
  exact hsub.subperm.trans h.pledges

/-- The reply for an operation that was let through its gate is on its way. -/
theorem Plays.pledged {job : Job} (h : Plays r s) (hq : r.queue = .resume job :: turns) :
    ∃ xs e ys reply taken, s.errands = xs ++ e :: ys ∧ e.answer = some (reply, taken) ∧
      job.pledge = ⟨e.await, reply⟩ ∧
      Plays { r with queue := turns } { s with errands := xs ++ ys } := by
  have hpledges : (job.pledge :: ({ r with queue := turns } : Rehearsal α).pledges).Subperm
      (s.errands.filterMap Errand.pledge?) := by
    refine List.Subperm.trans (List.Perm.subperm ?_) h.pledges
    rw [Rehearsal.pledges, Rehearsal.pledges, hq]
    exact List.perm_middle.symm
  obtain ⟨xs, e, ys, reply, taken, hs, ha, hp, hrest⟩ := exists_errand hpledges
  have hd := h.dequeue hq
  exact ⟨xs, e, ys, reply, taken, hs, ha, hp, hd.catalog, hd.now, hrest, hd.sole⟩

/-- The reply arrives, and the operation goes on. -/
theorem Plays.resume {e : Errand} {xs ys : List Errand} {reply : e.await.Reply}
    {taken : Finset Int64} (hs : s.errands = xs ++ e :: ys) (ha : e.answer = some (reply, taken))
    (h : Plays r { s with errands := xs ++ ys }) (caller : Caller) (n : Nat) :
    ∃ u t, LateStep anyConduct s (.land e) u ∧ Relation.ReflTransGen (GoesOn s.tickets) u t ∧
      Plays (r.goOn caller n e.await reply) t := by
  obtain ⟨u, hland, hsent, hu⟩ := Plays.land hs ha h
  obtain ⟨t, hut, ht⟩ := hu.pursue caller n hsent hland.tickets_le
  exact ⟨u, t, hland, hut, ht⟩

/-- A turn that no reply is for: an operation begins if the turn is one to begin it, and goes on as
far as it can. -/
theorem Plays.turn_unanswered (h : Plays r s) (hq : r.queue = turn :: turns)
    (hn : ∀ job, turn ≠ .resume job) :
    ∃ t, Relation.ReflTransGen (GoesOn s.tickets) ((r.begins? turn).elim s s.start) t ∧
      Plays (({ r with queue := turns } : Rehearsal α).takeTurn turn) t := by
  have hd := h.dequeue hq
  cases turn with
  | resume job => exact (hn job rfl).elim
  | start caller op =>
    have halive : ({ r with queue := turns } : Rehearsal α).isAlive caller = r.isAlive caller := by
      cases caller <;> rfl
    rw [begins?, Rehearsal.takeTurn, halive]
    split
    · exact hd.launch caller op
    · exact ⟨s, .refl, hd⟩
  | settle ticket =>
    rw [begins?, Rehearsal.takeTurn, Rehearsal.settle]
    dsimp only
    split
    · generalize r.app.surface.debouncer.decide ticket = decided
      obtain ⟨text?, d⟩ := decided
      have hdecided : Plays
          { r with
            queue := turns
            app := { r.app with surface := { r.app.surface with debouncer := d } } } s :=
        hd.congr rfl rfl rfl
      cases text? with
      | none => exact ⟨s, .refl, hdecided⟩
      | some text => exact hdecided.launch .surface (.search text)
    · exact ⟨s, .refl, hd⟩
  | rest id => exact ⟨s, .refl, hd.rest id⟩
  | reload id =>
    rw [begins?, Rehearsal.takeTurn]
    cases hf : r.follower? with
    | none =>
      have hf' : ({ r with queue := turns } : Rehearsal α).follower? = none := hf
      rw [hf']
      exact ⟨s, .refl, hd⟩
    | some current =>
      obtain ⟨current, f⟩ := current
      have hf' : ({ r with queue := turns } : Rehearsal α).follower? = some (current, f) := hf
      rw [hf']
      by_cases hid : current = id
      · subst hid
        simp only [Option.map_some, if_true]
        exact (hd.withFollower hf').launch (.follower current) .reload
      · simp only [Option.map_some, Option.some.injEq, hid, if_false]
        exact ⟨s, .refl, hd⟩

/-- What is under way in the background takes a turn. -/
theorem Plays.takeTurn (h : Plays r s) (hq : r.queue = turn :: turns) :
    ∃ t, Relation.ReflTransGen Continues
        ((r.begins? turn).elim s s.start) t ∧
      Plays (({ r with queue := turns } : Rehearsal α).takeTurn turn) t := by
  cases turn with
  | resume job =>
    rw [begins?, Rehearsal.takeTurn]
    split
    · obtain ⟨xs, e, ys, reply, taken, hs, ha, hp, hdrop⟩ := h.pledged hq
      obtain ⟨caller, gate, await, reply'⟩ := job
      cases hp
      obtain ⟨u, t, hland, hut, ht⟩ := Plays.resume hs ha hdrop caller callsPerOperation
      exact ⟨t, .head ⟨_, hland, nofun⟩ (continues_of_goesOn hut), ht⟩
    · exact ⟨s, .refl, h.dequeue hq⟩
  | _ =>
    obtain ⟨t, hst, ht⟩ := h.turn_unanswered hq fun job hj => nomatch hj
    exact ⟨t, continues_of_goesOn hst, ht⟩

theorem Plays.leads_takeTurn (h : Plays r s) (hq : r.queue = turn :: turns) :
    ∃ t, Relation.ReflTransGen (Leads anyConduct) s t ∧
      Plays (({ r with queue := turns } : Rehearsal α).takeTurn turn) t := by
  obtain ⟨t, hst, ht⟩ := h.takeTurn hq
  have hbegin : Relation.ReflTransGen (Leads anyConduct) s
      ((r.begins? turn).elim s s.start) := by
    cases r.begins? turn with
    | none => exact .refl
    | some op => exact .single ⟨_, .step (.start s op)⟩
  exact ⟨t, hbegin.trans (leads_of_continues hst), ht⟩

theorem Plays.run (n : Nat) (h : Plays r s) :
    ∃ t, Relation.ReflTransGen (Leads anyConduct) s t ∧ Plays (r.run n) t := by
  induction n generalizing r s with
  | zero => exact ⟨s, .refl, h⟩
  | succ n ih =>
    rw [Rehearsal.run]
    cases hq : r.queue with
    | nil => exact ⟨s, .refl, h⟩
    | cons turn turns =>
      obtain ⟨t, hst, ht⟩ := h.leads_takeTurn hq
      obtain ⟨u, htu, hu⟩ := ih ht
      exact ⟨u, hst.trans htu, hu⟩

end Turns

section Changes

variable {u : SessionStore Desk} {change : SessionStore Desk → Option (SessionStore Desk)}
  {t : Traffic}

/-- The turn of a follower that a change of the session has called. -/
def summons (u : SessionStore Desk) (r : Rehearsal α) : List Turn :=
  match u.memory.follower with
  | some (id, f) =>
    if f.stage = .called ∧ (r.follower?.map fun f => f.2.stage) ≠ some .called then [.reload id]
    else []
  | none => []

theorem changeSession_eq (hc : change r.sessions = some u) :
    r.changeSession change = { r with sessions := u, queue := r.queue ++ r.summons u } := by
  unfold Rehearsal.changeSession summons
  rw [hc]
  dsimp only
  cases hf : u.memory.follower with
  | none =>
    rw [show ({ r with sessions := u } : Rehearsal α).follower? = none from hf]
    simp
  | some f =>
    rw [show ({ r with sessions := u } : Rehearsal α).follower? = some f from hf]
    by_cases hcall : f.2.stage = .called ∧
        (r.follower?.map fun f => f.2.stage) ≠ some .called
    · simp only [if_pos hcall]
      rfl
    · simp only [if_neg hcall, List.append_nil]

/-- Such a turn reloads, and does nothing else. -/
theorem summons_eq (u : SessionStore Desk) (r : Rehearsal α) :
    r.summons u = [] ∨ ∃ id, r.summons u = [.reload id] := by
  unfold summons
  split
  · split
    · exact Or.inr ⟨_, rfl⟩
    · exact Or.inl rfl
  · exact Or.inl rfl

theorem Plays.changed (h : Plays r s) (hc : change r.sessions = some u) (hu : Desk.Sole u)
    (hcat : t.catalog = u.memory.catalog) (hn : t.now = s.now) (he : t.errands = s.errands) :
    Plays (r.changeSession change) t := by
  rw [changeSession_eq hc]
  refine ⟨hcat, hn.trans h.now, ?_, hu⟩
  have hpledges : ({ r with sessions := u, queue := r.queue ++ r.summons u } :
      Rehearsal α).pledges = r.pledges := by
    rcases summons_eq u r with he | ⟨id, he⟩ <;> simp [Rehearsal.pledges, he, Turn.pledge?]
  rw [hpledges, he]
  exact h.pledges

theorem Plays.changeSession (h : Plays r s) (hc : change r.sessions = some u)
    (hu : Desk.Told r.sessions u) : ∃ t, Outdates s t ∧ Plays (r.changeSession change) t := by
  rcases hu.memory with ⟨hm, -⟩ | ⟨hm, -⟩
  · have hcat : s.catalog = u.memory.catalog := by
      rw [hm]
      exact h.catalog
    exact ⟨s, Or.inl rfl, h.changed hc hu.sole hcat rfl rfl⟩
  · have hcat : s.catalog.outdate = u.memory.catalog := by
      rw [hm, h.catalog]
      rfl
    exact ⟨_, Or.inr rfl, h.changed hc hu.sole hcat rfl rfl⟩

theorem Plays.enter (h : Plays r s) (v : Session) : ∃ t, Outdates s t ∧ Plays (r.enter v) t := by
  obtain ⟨u, hu, htold⟩ := h.sole.enter (v := v) (c := r.calling) 1 rfl
  exact h.changeSession hu htold

theorem Plays.leave (h : Plays r s) : ∃ t, Outdates s t ∧ Plays r.leave t := by
  obtain ⟨u, hu, htold⟩ := h.sole.leave (c := r.calling) 1 rfl
  exact h.changeSession hu htold

end Changes

section Cues

variable {u : SessionStore Desk}

theorem Plays.dropDead (h : Plays r s) : Plays r.dropDead s := by
  have hsub : r.dropDead.pledges.Sublist r.pledges :=
    (List.filter_sublist.map _).append (List.Sublist.refl _)
  exact ⟨h.catalog, h.now, hsub.subperm.trans h.pledges, h.sole⟩

theorem Plays.follow (h : Plays r s) : Plays r.follow s := by
  have hfollow : Plays { r with sessions := Desk.follow r.sessions } s :=
    ⟨h.catalog.trans (Desk.catalog_follow _).symm, h.now, h.pledges, h.sole.follow⟩
  exact hfollow.dropDead.enqueue rfl

theorem Plays.unfollow (h : Plays r s) : Plays r.unfollow s := by
  have hunfollow : Plays { r with sessions := Desk.unfollow r.sessions } s :=
    ⟨h.catalog.trans (Desk.catalog_unfollow _).symm, h.now, h.pledges, h.sole.unfollow⟩
  exact hunfollow.dropDead

/-- The gate stays open, or an operation is let through it and waits for its turn. -/
theorem release_cases (gate : String) (r : Rehearsal α) :
    r.release gate = { r with openings := gate :: r.openings } ∨
      ∃ js job js', r.jobs = js ++ job :: js' ∧
        r.release gate = ({ r with jobs := js ++ js' } : Rehearsal α).enqueue (.resume job) := by
  unfold Rehearsal.release
  split
  · exact Or.inl rfl
  · rename_i job hj
    obtain ⟨hgate, js, js', hs, hne⟩ := List.find?_eq_some_iff_append.mp hj
    have hfirst : ∀ j ∈ js, ¬ (j.gate == gate) = true := by simpa using hne
    refine Or.inr ⟨js, job, js', hs, ?_⟩
    rw [hs, List.eraseP_append_right _ hfirst, List.eraseP_cons, hgate]
    rfl

theorem Plays.release (h : Plays r s) (gate : String) : Plays (r.release gate) s := by
  rcases release_cases gate r with hr | ⟨js, job, js', hs, hr⟩
  · rw [hr]
    exact h.congr rfl rfl rfl
  · rw [hr]
    refine ⟨h.catalog, h.now, List.Subperm.trans (List.Perm.subperm ?_) h.pledges, h.sole⟩
    have hnew : (({ r with jobs := js ++ js' } : Rehearsal α).enqueue (.resume job)).pledges =
        js.map Job.pledge ++
          ((js'.map Job.pledge ++ r.queue.filterMap Turn.pledge?) ++ [job.pledge]) := by
      simp [Rehearsal.pledges, Rehearsal.enqueue, Turn.pledge?]
    have hold : r.pledges = js.map Job.pledge ++
        job.pledge :: (js'.map Job.pledge ++ r.queue.filterMap Turn.pledge?) := by
      simp [Rehearsal.pledges, hs]
    rw [hnew, hold]
    exact (List.perm_append_singleton _ _).append_left _

theorem Plays.startTask (h : Plays r s) (task : Task) : Plays (r.startTask task) s := by
  cases task <;> exact h.enqueue rfl

theorem Plays.dispatch [Length α] (h : Plays r s) (e : SurfaceEvent α) :
    Plays (r.dispatch e).1 s := by
  unfold Rehearsal.dispatch
  obtain ⟨surface, task?⟩ := r.app.surface.dispatch r.now e
  have happ : Plays { r with app := { r.app with surface } } s :=
    h.congr rfl rfl rfl
  cases task? with
  | none => exact happ
  | some task => exact happ.startTask task

theorem Plays.clear (h : Plays r s) :
    Plays (r.withCatalog { r.catalog with cache := r.catalog.cache.clear }) (s.keepOnly []) :=
  ⟨by rw [← h.catalog]; rfl, h.now, h.pledges, h.sole.congr rfl rfl rfl⟩

theorem Plays.carryOut (h : Plays r s) (i : Intent) :
    ∃ t, Relation.ReflTransGen Continues s t ∧ Plays (r.carryOut i) t := by
  cases i with
  | work task => exact ⟨s, .refl, h.startTask task⟩
  | clearCache => exact ⟨_, .single (continues_clear s), h.clear⟩
  | leaveSession => exact h.leave.imp fun _ ht => ⟨ht.1.continues, ht.2⟩
  | opened id => exact ⟨s, .refl, h.enqueue rfl⟩

/-- One thing after the other is done. -/
theorem Plays.foldl {β : Type} {f : Rehearsal α → β → Rehearsal α}
    (hf : ∀ (r : Rehearsal α) (s : Traffic) (b : β), Plays r s →
      ∃ t, Relation.ReflTransGen Continues s t ∧ Plays (f r b) t)
    (bs : List β) (h : Plays r s) :
    ∃ t, Relation.ReflTransGen Continues s t ∧ Plays (bs.foldl f r) t := by
  induction bs generalizing r s with
  | nil => exact ⟨s, .refl, h⟩
  | cons b bs ih =>
    obtain ⟨t, hst, ht⟩ := hf r s b h
    obtain ⟨u, htu, hu⟩ := ih ht
    exact ⟨u, hst.trans htu, hu⟩

theorem Plays.press [Length α] (h : Plays r s) (k : KeyPress) :
    ∃ t, Relation.ReflTransGen Continues s t ∧ Plays (r.press k) t := by
  have happ : Plays
      { r with
        app := (r.app.press r.now r.catalog k).app
        quit := r.quit || (r.app.press r.now r.catalog k).quit } s :=
    h.congr rfl rfl rfl
  exact happ.foldl (fun _ _ i h => h.carryOut i) _

theorem Plays.settleAll (tickets : List UInt64) (h : Plays r s) :
    Plays (tickets.foldl (fun r ticket => r.enqueue (.settle ticket)) r) s := by
  induction tickets generalizing r with
  | nil => exact h
  | cons ticket tickets ih => exact ih (h.enqueue rfl)

theorem Plays.advance (h : Plays r s) (span : Nanos) :
    Plays (r.advance span) { s with now := s.now + span } := by
  have hwait : Plays { r with now := r.now + span } { s with now := s.now + span } :=
    ⟨h.catalog, congrArg (· + span) h.now, h.pledges, h.sole⟩
  exact hwait.settleAll _

variable [Length α]

theorem Plays.attend (h : Plays r s) : Plays r.attend s := by
  unfold Rehearsal.attend
  split
  · exact h.congr rfl rfl rfl
  · exact h

theorem Plays.take {cue : Cue α} (h : Plays r s) (n : Nat) (hc : ∀ d, cue ≠ .cacheGet d) :
    ∃ t, Relation.ReflTransGen Continues s t ∧ Plays (r.take n cue).1 t := by
  cases cue with
  | cacheGet d => exact (hc d rfl).elim
  | release gate => exact ⟨s, .refl, h.release gate⟩
  | operation op => exact ⟨s, .refl, h.enqueue rfl⟩
  | cacheClear => exact ⟨_, .single (continues_clear s), h.clear⟩
  | invalidate =>
    refine ⟨_, .single ⟨.outdate, .step (.outdate s), nofun⟩, ?_, h.now, h.pledges,
      h.sole.congr rfl rfl rfl⟩
    rw [h.catalog]
    rfl
  | advance span =>
    exact ⟨_, .single ⟨.wait span, .step (.wait s span), nofun⟩, h.advance span⟩
  | follow => exact ⟨s, .refl, h.follow⟩
  | unfollow => exact ⟨s, .refl, h.unfollow⟩
  | enter session => exact (h.enter session).imp fun _ ht => ⟨ht.1.continues, ht.2⟩
  | leave => exact h.leave.imp fun _ ht => ⟨ht.1.continues, ht.2⟩
  | dispatch event => exact ⟨s, .refl, h.dispatch event⟩
  | keys presses => exact h.foldl (fun _ _ k h => h.press k) presses
  | _ => exact ⟨s, .refl, h.congr rfl rfl rfl⟩

theorem Plays.play {cue : Cue α} (h : Plays r s) (n : Nat) (hc : ∀ d, cue ≠ .cacheGet d) :
    ∃ t, Relation.ReflTransGen (Leads anyConduct) s t ∧ Plays (r.play n cue).1 t := by
  have hr : Plays
      { r with calls := [], ended := [], app := { r.app with needsRedraw := false } } s :=
    h.congr rfl rfl rfl
  obtain ⟨t, hst, ht⟩ := hr.take n hc
  obtain ⟨u, htu, hu⟩ := ht.run _
  exact ⟨u, (leads_of_continues hst).trans htu, hu.attend⟩

end Cues

/-- Nothing has been asked of the catalog yet, and nobody follows the session. -/
structure Fresh (r : Rehearsal α) : Prop where
  catalog : ∃ ttl capacity pageLimit searchLimit,
    r.catalog = .withLimits (.ofCapacity ttl capacity) pageLimit searchLimit
  follower : r.follower? = none
  listeners : r.sessions.listeners = []
  jobs : r.jobs = []
  queue : r.queue = []

/-- The traffic at its start. -/
def opening (r : Rehearsal α) : Traffic := { catalog := r.catalog, now := r.now, held := ∅ }

theorem Fresh.initial (h : Fresh r) : r.opening.Initial := by
  obtain ⟨ttl, capacity, pageLimit, searchLimit, hc⟩ := h.catalog
  exact ⟨ttl, capacity, pageLimit, searchLimit, r.now, ∅, by rw [opening, hc]⟩

theorem Fresh.plays (h : Fresh r) : Plays r r.opening := by
  have hnone : r.sessions.memory.subscription? = none := congrArg (Option.map Prod.fst) h.follower
  refine ⟨rfl, rfl, ?_, ⟨?_, ?_⟩⟩
  · rw [Rehearsal.pledges, h.jobs, h.queue]
    exact List.nil_subperm
  · rw [h.listeners, hnone]
    rfl
  · rw [hnone]
    exact fun _ hm => (Option.not_mem_none _ hm).elim

/-- Play some cues, each with its number, one after the other. -/
def playAll [Length α] (cues : List (Nat × Cue α)) (r : Rehearsal α) : Rehearsal α :=
  cues.foldl (fun r c => (r.play c.1 c.2).1) r

theorem Plays.playAll [Length α] {cues : List (Nat × Cue α)} (h : Plays r s)
    (hc : ∀ c ∈ cues, ∀ d, c.2 ≠ .cacheGet d) :
    ∃ t, Relation.ReflTransGen (Leads anyConduct) s t ∧ Plays (r.playAll cues) t := by
  induction cues generalizing r s with
  | nil => exact ⟨s, .refl, h⟩
  | cons c cues ih =>
    simp only [List.mem_cons, forall_eq_or_imp] at hc
    obtain ⟨t, hst, ht⟩ := h.play c.1 hc.1
    obtain ⟨u, htu, hu⟩ := ih ht hc.2
    exact ⟨u, hst.trans htu, hu⟩

/-- Whatever is played, the catalog stands where it stands in a run of the traffic. Only to look a
page up in the cache directly is no event of the traffic. -/
theorem reachable_playAll [Length α] (h : Fresh r) {cues : List (Nat × Cue α)}
    (hc : ∀ c ∈ cues, ∀ d, c.2 ≠ .cacheGet d) :
    ∃ s, LateReachable anyConduct s ∧ Plays (r.playAll cues) s := by
  obtain ⟨s, hs, hplays⟩ := h.plays.playAll hc
  exact ⟨s, ⟨_, h.initial, hs⟩, hplays⟩

end Rehearsal
end Companions
