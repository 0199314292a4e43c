import Companions.Proofs.RehearsedTraffic
import Companions.Proofs.SessionPages

/-! The follower in a rehearsal. Its task is a single one, so that at most one of the things waiting
in the background is to be done by it. All others leave it as it is. -/
namespace Companions

section Range
variable {k : Conduct} {s t : Traffic} {a : Event} {as : List Event}

/-- The numbers of the tickets and of the epochs have not started over. -/
structure Traffic.InRange (s : Traffic) : Prop where
  tickets : s.tickets < 2 ^ 64
  epochs : s.epochs < 2 ^ 64

theorem ofNat_injOn {m n : Nat} (h : UInt64.ofNat m = UInt64.ofNat n) (hm : m < 2 ^ 64)
    (hn : n < 2 ^ 64) : m = n := by
  rcases le_total m n with hle | hle
  · exact eq_of_ofNat_eq h hle (by omega)
  · exact (eq_of_ofNat_eq h.symm hle (by omega)).symm

theorem LateStep.epochs_le (h : LateStep k s a t) : s.epochs ≤ t.epochs := by
  rcases h.step_or_landing with h | ⟨e, rfl, ⟨_, _, _⟩⟩
  · exact h.counts.2
  · exact le_rfl

theorem LateStep.inRange (h : LateStep k s a t) (ht : t.InRange) : s.InRange :=
  ⟨h.tickets_le.trans_lt ht.tickets, h.epochs_le.trans_lt ht.epochs⟩

theorem inRange_of_leads (h : Relation.ReflTransGen (Leads k) s t) (ht : t.InRange) :
    s.InRange := by
  induction h with
  | refl => exact ht
  | tail _ hs ih =>
    obtain ⟨a, hs⟩ := hs
    exact ih (hs.inRange ht)

/-- Until then no reply is too late. -/
theorem LateStep.in_time (h : LateStep k s a t) (hs : s.InRange) : Step k s a t := by
  cases h with
  | step h => exact h
  | land he ha =>
    have ht := hs.tickets
    have hk := hs.epochs
    exact .land he ha fun _ => ⟨by omega, by omega⟩

theorem leads_of_run (h : Run k s as t) : Relation.ReflTransGen (Leads k) s t := by
  induction h with
  | refl => exact .refl
  | step hs _ ih => exact .head ⟨_, .step hs⟩ ih

theorem Reachable.late (h : Reachable k s) : LateReachable k s := by
  obtain ⟨s₀, as, h₀, hr⟩ := h
  exact ⟨s₀, h₀, leads_of_run hr⟩

theorem Errand.hasTicket_of_page? {e : Errand} (h : e.page?.isSome) : e.HasTicket := by
  obtain ⟨request, w, answer, ticket, epoch, before⟩ := e
  cases answer with
  | none => cases h
  | some a =>
    cases w with
    | page n d => rfl
    | found n => rfl
    | _ => cases h

end Range

namespace Visit

variable {k : Conduct} {u v w : Visit} {s t : Traffic} {a : Event} {h : Happening} {e : Errand}
  {m : Nat}

/-- From one visit to another, against a backend of which nothing is expected. -/
def Reaches (v w : Visit) : Prop := ∃ as, Run anyConduct v as w

theorem Reaches.refl (v : Visit) : Reaches v v := ⟨[], .refl v⟩

theorem Reaches.tail (hr : Reaches u v) (hs : Step anyConduct v h w) : Reaches u w := by
  obtain ⟨as, hr⟩ := hr
  exact ⟨_, hr.step hs⟩

theorem Reaches.trans (hr : Reaches u v) (hs : Reaches v w) : Reaches u w := by
  obtain ⟨as, hr⟩ := hr
  obtain ⟨bs, hs⟩ := hs
  exact ⟨_, hr.trans hs⟩

theorem Reaches.reachable (hr : Reaches v w) (hv : Reachable anyConduct v) :
    Reachable anyConduct w := by
  obtain ⟨as, hr⟩ := hr
  exact hv.run hr

theorem Reaches.leads (hr : Reaches v w) (hv : Reachable anyConduct v) :
    Relation.ReflTransGen (Leads anyConduct) v.traffic w.traffic := by
  obtain ⟨as, hr⟩ := hr
  obtain ⟨es, hr⟩ := hr.traffic hv
  exact leads_of_run hr

/-- The traffic has gone on without the follower. -/
structure Bypasses (v w : Visit) : Prop where
  reaches : Reaches v w
  sessions : w.sessions = v.sessions
  id : w.id = v.id
  follower : w.follower = v.follower
  reload : w.reload = v.reload
  tickets : v.traffic.tickets ≤ w.traffic.tickets

theorem Bypasses.refl (v : Visit) : Bypasses v v := ⟨.refl v, rfl, rfl, rfl, rfl, le_rfl⟩

theorem Bypasses.trans (hv : Bypasses u v) (hw : Bypasses v w) : Bypasses u w :=
  ⟨hv.reaches.trans hw.reaches, hw.sessions.trans hv.sessions, hw.id.trans hv.id,
    hw.follower.trans hv.follower, hw.reload.trans hv.reload, hv.tickets.trans hw.tickets⟩

/-- The backend replies to a request that was signed, if it is one for a ticket. -/
theorem Reachable.reply (hv : Reachable k v)
    (hs : Companions.Step k v.traffic (.answer e) t)
    (hg : e.HasTicket → (v.papers e.ticket).signed.isSome) :
    Step k v (.traffic (.answer e)) (v.after (.answer e) t) := by
  refine .traffic hs ?_ fun x hx => by cases hx
  intro x hx hp
  cases hs with
  | answer he ha hk =>
    rcases mem_of_replace he x hx with hx | rfl
    · exact signed_reachable hv x hx hp
    · have hw := Errand.hasTicket_of_page? hp
      exact hg hw

/-- Any step of the traffic but a reply to the follower. A request is signed before it is replied
to. -/
theorem Reachable.bypass_step (hv : Reachable anyConduct v)
    (hs : Companions.Step anyConduct v.traffic a t)
    (hn : ∀ e, a = .land e → e.HasTicket → v.reload ≠ .underWay e.ticket) :
    ∃ w, Bypasses v w ∧ w.traffic = t := by
  have hle : v.traffic.tickets ≤ t.tickets := (LateStep.step hs).tickets_le
  by_cases ha : ∃ e, a = .answer e
  · obtain ⟨e, rfl⟩ := ha
    by_cases hg : e.HasTicket → (v.papers e.ticket).signed.isSome
    · have hreply := hv.reply hs hg
      exact ⟨_, ⟨.tail (.refl v) hreply, rfl, rfl, rfl, rfl, hle⟩, rfl⟩
    · obtain ⟨hw, hg⟩ := Classical.not_imp.mp hg
      have he : e ∈ v.traffic.errands := by
        cases hs with
        | answer he => simp [he]
      have hsign : Step anyConduct v (.sign e) (v.sign e) :=
        .sign he hw (Option.not_isSome_iff_eq_none.mp hg)
      have hsigned : ((v.sign e).papers e.ticket).signed.isSome := by simp [Visit.sign]
      have hreply := (hv.step hsign).reply (v := v.sign e) hs fun _ => hsigned
      exact ⟨_, ⟨.tail (.tail (.refl v) hsign) hreply, rfl, rfl, rfl, rfl, hle⟩, rfl⟩
  · have hg := (signed_reachable hv).of_step hs fun e he => ha ⟨e, he⟩
    exact ⟨_, ⟨.tail (.refl v) (.traffic hs hg hn), rfl, rfl, rfl, rfl, hle⟩, rfl⟩

/-- What follows while no reply comes to the first `m` tickets, of which one is the follower's. -/
theorem Reachable.bypass (hv : Reachable anyConduct v)
    (hs : Relation.ReflTransGen (GoesOn m) v.traffic t) (ht : t.InRange)
    (hm : ∀ n, v.reload = .underWay n → n ≤ m) : ∃ w, Bypasses v w ∧ w.traffic = t := by
  induction hs with
  | refl => exact ⟨v, .refl v, rfl⟩
  | tail _ hs ih =>
    obtain ⟨a, hs, -, hlater⟩ := hs
    obtain ⟨w, hw, rfl⟩ := ih (hs.inRange ht)
    have hn : ∀ e, a = .land e → e.HasTicket → w.reload ≠ .underWay e.ticket := by
      intro e he hticket hreload
      have hle := hm e.ticket (hw.reload ▸ hreload)
      exact absurd (hlater e he hticket) (Nat.not_lt.mpr hle)
    obtain ⟨x, hx, hxt⟩ := (hw.reaches.reachable hv).bypass_step (hs.in_time (hs.inRange ht)) hn
    exact ⟨x, hw.trans hx, hxt⟩

end Visit

/-- What the follower's task will do when it runs next. -/
inductive Duty
  /-- Wait for its first call. -/
  | rest
  /-- Heed a call. -/
  | wake
  | begin (op : Operation)
  /-- Go on when the reply for this ticket is let through. -/
  | await (ticket? : Option UInt64)

def Job.duty? (id : Nat) (j : Job) : Option Duty :=
  if j.caller = .follower id then some (.await j.await.ticket?) else none

def Turn.duty? (id : Nat) : Turn → Option Duty
  | start caller op => if caller = .follower id then some (.begin op) else none
  | resume job => job.duty? id
  | rest follower => if follower = id then some .rest else none
  | reload follower => if follower = id then some .wake else none
  | settle _ => none

/-- At most one, for the follower's task is a single one. -/
def Visit.duties (v : Visit) : List Duty :=
  match v.reload with
  | .due => [.begin .reload]
  | .underWay n => [.await (some (.ofNat n))]
  | .idle =>
    match v.follower.stage with
    | .starting => [.rest]
    | .called => [.wake]
    | .resting | .reloading => []

theorem Visit.duties_congr {v w : Visit} (hr : w.reload = v.reload)
    (hf : w.follower.stage = v.follower.stage) : w.duties = v.duties := by
  rw [Visit.duties, hr, hf]
  rfl

namespace Rehearsal

variable {α : Type} {r q : Rehearsal α} {v w : Visit} {s t : Traffic} {caller : Caller}
  {turn : Turn} {turns : List Turn} {id : Nat}

def duties (id : Nat) (r : Rehearsal α) : List Duty :=
  r.queue.filterMap (Turn.duty? id) ++ r.jobs.filterMap (Job.duty? id)

/-- The store and the follower are as in the visit. -/
structure Agrees (r : Rehearsal α) (v : Visit) : Prop where
  sessions : ∃ m, r.sessions = { v.sessions with memory := m }
  follower : r.follower? = some (v.id, v.follower)

/-- The follower's task runs, so that nothing of it waits. -/
structure Acts (r : Rehearsal α) (v : Visit) : Prop extends Agrees r v where
  duties : r.duties v.id = []

/-- The rehearsal is in the state of the visit. -/
structure Hosts (r : Rehearsal α) (v : Visit) : Prop extends Agrees r v where
  plays : Plays r v.traffic
  duties : (r.duties v.id).Perm v.duties
  issued : ∀ n, v.reload = .underWay n → n ≤ v.traffic.tickets

theorem Hosts.store (h : Hosts r v) : v.store = r.sessions := by
  obtain ⟨m, hm⟩ := h.sessions
  have hmemory : (⟨v.traffic.catalog, some (v.id, v.follower)⟩ : Desk) = r.sessions.memory := by
    rw [h.plays.catalog, ← h.follower]
    rfl
  rw [Visit.store, hmemory, hm]

/-- Nothing that concerns the follower or the store has happened. -/
structure Ignores (id : Nat) (r q : Rehearsal α) : Prop where
  sessions : ∃ m, q.sessions = { r.sessions with memory := m }
  follower : q.follower? = r.follower?
  duties : (q.duties id).Perm (r.duties id)

theorem Ignores.refl (id : Nat) (r : Rehearsal α) : Ignores id r r := ⟨⟨_, rfl⟩, rfl, .refl _⟩

theorem Ignores.trans {p : Rehearsal α} (hq : Ignores id r q) (hp : Ignores id q p) :
    Ignores id r p := by
  obtain ⟨m, hm⟩ := hq.sessions
  obtain ⟨m', hm'⟩ := hp.sessions
  refine ⟨⟨m', ?_⟩, hp.follower.trans hq.follower, hp.duties.trans hq.duties⟩
  rw [hm', hm]

theorem Agrees.ignored (h : Agrees r v) (hi : Ignores v.id r q) (hs : w.sessions = v.sessions)
    (hid : w.id = v.id) (hf : w.follower = v.follower) : Agrees q w := by
  obtain ⟨m, hm⟩ := h.sessions
  obtain ⟨m', hm'⟩ := hi.sessions
  refine ⟨⟨m', ?_⟩, ?_⟩
  · rw [hm', hm, hs]
  · rw [hi.follower, h.follower, hid, hf]

theorem Acts.ignored (h : Acts r v) (hi : Ignores v.id r q) (hs : w.sessions = v.sessions)
    (hid : w.id = v.id) (hf : w.follower = v.follower) : Acts q w := by
  refine ⟨h.toAgrees.ignored hi hs hid hf, ?_⟩
  have hduties := hi.duties
  rw [h.duties] at hduties
  rw [hid]
  exact hduties.eq_nil

theorem Hosts.ignored (h : Hosts r v) (hw : v.Bypasses w) (hi : Ignores v.id r q)
    (hq : Plays q w.traffic) : Hosts q w := by
  refine ⟨h.toAgrees.ignored hi hw.sessions hw.id hw.follower, hq, ?_, ?_⟩
  · rw [hw.id, Visit.duties_congr hw.reload (congrArg Follower.stage hw.follower)]
    exact hi.duties.trans h.duties
  · intro n hn
    exact (h.issued n (hw.reload ▸ hn)).trans hw.tickets

theorem duties_enqueue (id : Nat) (turn : Turn) (r : Rehearsal α) :
    ((r.enqueue turn).duties id).Perm ((turn.duty? id).toList ++ r.duties id) := by
  have hqueue : (r.enqueue turn).duties id = r.queue.filterMap (Turn.duty? id) ++
      ((turn.duty? id).toList ++ r.jobs.filterMap (Job.duty? id)) := by
    rw [duties, enqueue, List.filterMap_append, List.append_assoc, List.filterMap_cons,
      List.filterMap_nil]
    cases turn.duty? id <;> rfl
  rw [hqueue, duties, ← List.append_assoc, ← List.append_assoc]
  exact List.perm_append_comm.append_right _

theorem duties_dequeue (hq : r.queue = turn :: turns) :
    r.duties id =
      (turn.duty? id).toList ++ ({ r with queue := turns } : Rehearsal α).duties id := by
  rw [duties, hq, List.filterMap_cons]
  cases turn.duty? id <;> rfl

theorem duties_wait (id : Nat) (r : Rehearsal α) (job : Job) :
    ({ r with jobs := r.jobs ++ [job] } : Rehearsal α).duties id =
      r.duties id ++ (job.duty? id).toList := by
  rw [duties, List.filterMap_append, ← List.append_assoc]
  cases hd : job.duty? id <;> simp [duties, hd]

theorem ignores_enqueue (r : Rehearsal α) (hd : turn.duty? id = none) :
    Ignores id r (r.enqueue turn) := by
  have hduties := duties_enqueue id turn r
  rw [hd] at hduties
  exact ⟨⟨_, rfl⟩, rfl, hduties⟩

theorem ignores_dequeue (hq : r.queue = turn :: turns) (hd : turn.duty? id = none) :
    Ignores id r { r with queue := turns } := by
  refine ⟨⟨_, rfl⟩, rfl, ?_⟩
  rw [duties_dequeue hq, hd]
  rfl

/-- Another follower comes to rest, which is attached no longer. -/
theorem rest_of_ne {other : Nat} (hf : r.follower?.map Prod.fst = some id) (hn : other ≠ id) :
    r.rest other = r := by
  obtain ⟨⟨current, f⟩, hcurrent, rfl⟩ := Option.map_eq_some_iff.mp hf
  unfold Rehearsal.rest
  rw [hcurrent]
  exact if_neg (Ne.symm hn)

theorem ignores_finish (r : Rehearsal α) (hf : r.follower?.map Prod.fst = some id)
    (hc : caller ≠ .follower id) (out : Outcome) : Ignores id r (r.finish caller out) := by
  unfold Rehearsal.finish
  cases caller with
  | cue n => exact ⟨⟨_, rfl⟩, rfl, .refl _⟩
  | surface => exact .refl id r
  | opening id => cases out <;> exact ⟨⟨_, rfl⟩, rfl, .refl _⟩
  | follower other =>
    have hne : other ≠ id := fun he => hc (congrArg Caller.follower he)
    dsimp only
    rw [rest_of_ne hf hne]
    exact .refl id r

theorem ignores_pursue (n : Nat) (p : Progress) (r : Rehearsal α)
    (hf : r.follower?.map Prod.fst = some id) (hc : caller ≠ .follower id) :
    Ignores id r (r.pursue caller n p) := by
  induction n generalizing p r with
  | zero =>
    cases p with
    | ends out => exact ignores_finish r hf hc out
    | asks request w => exact .refl id r
  | succ n ih =>
    cases p with
    | ends out => exact ignores_finish r hf hc out
    | asks request w =>
      obtain ⟨script, openings, calls, reply, hgoes | ⟨gate, hgoes⟩⟩ :=
        pursue_asks caller n request w r
      · rw [hgoes]
        exact Ignores.trans (q := ({ r with script, openings, calls } : Rehearsal α).withCatalog
          (r.catalog.resume r.now w reply).1) ⟨⟨_, rfl⟩, rfl, .refl _⟩ (ih _ _ hf)
      · rw [hgoes]
        have hnone : Job.duty? id ⟨caller, gate, w, reply⟩ = none := if_neg hc
        have hwait := duties_wait id { r with script, openings, calls }
          ⟨caller, gate, w, reply⟩
        rw [hnone, Option.toList_none, List.append_nil] at hwait
        exact ⟨⟨_, rfl⟩, rfl, .of_eq hwait⟩

theorem ignores_launch (r : Rehearsal α) (hf : r.follower?.map Prod.fst = some id)
    (hc : caller ≠ .follower id) (op : Operation) : Ignores id r (r.launch caller op) :=
  Ignores.trans (q := r.withCatalog (r.catalog.start r.now op).1) ⟨⟨_, rfl⟩, rfl, .refl _⟩
    (ignores_pursue _ _ _ hf hc)

theorem ignores_goOn (r : Rehearsal α) (hf : r.follower?.map Prod.fst = some id)
    (hc : caller ≠ .follower id) (n : Nat) (w : Await) (reply : w.Reply) :
    Ignores id r (r.goOn caller n w reply) :=
  Ignores.trans (q := r.withCatalog (r.catalog.resume r.now w reply).1) ⟨⟨_, rfl⟩, rfl, .refl _⟩
    (ignores_pursue _ _ _ hf hc)

/-- A turn in which the follower's task has no part. -/
theorem ignores_takeTurn (r : Rehearsal α) (hf : r.follower?.map Prod.fst = some id)
    (hd : turn.duty? id = none) : Ignores id r (r.takeTurn turn) := by
  unfold Rehearsal.takeTurn
  cases turn with
  | start caller op =>
    have hc : caller ≠ .follower id := by simpa [Turn.duty?] using hd
    dsimp only
    split
    · exact ignores_launch r hf hc op
    · exact .refl id r
  | settle ticket =>
    dsimp only [Rehearsal.settle]
    split
    · generalize r.app.surface.debouncer.decide ticket = decided
      obtain ⟨text?, d⟩ := decided
      let q : Rehearsal α :=
        { r with app := { r.app with surface := { r.app.surface with debouncer := d } } }
      have hq : Ignores id r q := ⟨⟨_, rfl⟩, rfl, .refl _⟩
      cases text? with
      | none => exact hq
      | some text =>
        have hc : Caller.surface ≠ .follower id := by simp
        exact hq.trans (ignores_launch q hf hc (.search text))
    · exact .refl id r
  | resume job =>
    have hc : job.caller ≠ .follower id := by simpa [Turn.duty?, Job.duty?] using hd
    dsimp only
    split
    · exact ignores_goOn r hf hc callsPerOperation job.await job.reply
    · exact .refl id r
  | rest other =>
    have hne : other ≠ id := by simpa [Turn.duty?] using hd
    dsimp only
    rw [rest_of_ne hf hne]
    exact .refl id r
  | reload other =>
    have hne : other ≠ id := by simpa [Turn.duty?] using hd
    obtain ⟨⟨current, f⟩, hcurrent, rfl⟩ := Option.map_eq_some_iff.mp hf
    rw [hcurrent]
    dsimp only
    rw [if_neg (Ne.symm hne)]
    exact .refl current r

end Rehearsal
end Companions
