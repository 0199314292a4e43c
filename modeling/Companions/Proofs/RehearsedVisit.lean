import Companions.Proofs.Loading
import Companions.Proofs.RehearsedFollower

/-! A rehearsal in which a follower is attached from the start is a run of a visit, until so many
tickets or epochs have passed that their numbers start over. -/
namespace Companions

/-- Anything but to attach or detach a follower, and to look a page up in the cache directly. -/
def Cue.isVisit {α : Type} : Cue α → Bool
  | .follow | .unfollow | .cacheGet _ => false
  | _ => true

namespace Rehearsal

variable {α : Type} {r q : Rehearsal α} {v w : Visit} {s t : Traffic} {turn : Turn}
  {turns : List Turn} {id : Nat}

/-- A run of the visit leads to the rehearsal, or one of the traffic in which the numbers have
started over. -/
def Hosted (r : Rehearsal α) (v : Visit) : Prop :=
  ∃ t, Relation.ReflTransGen (Leads anyConduct) v.traffic t ∧ Plays r t ∧
    (t.InRange → ∃ w, v.Reaches w ∧ w.traffic = t ∧ Hosts r w)

theorem Hosts.hosted (h : Hosts r w) (hw : v.Reaches w) (hv : Visit.Reachable anyConduct v) :
    Hosted r v :=
  ⟨w.traffic, hw.leads hv, h.plays, fun _ => ⟨w, hw, rfl, h⟩⟩

theorem Hosted.of_reaches (h : Hosted r w) (hw : v.Reaches w)
    (hv : Visit.Reachable anyConduct v) : Hosted r v := by
  obtain ⟨t, hr, hp, hhosts⟩ := h
  refine ⟨t, (hw.leads hv).trans hr, hp, fun ht => ?_⟩
  obtain ⟨x, hx, hxt, hh⟩ := hhosts ht
  exact ⟨x, hw.trans hx, hxt, hh⟩

/-- One thing after the other, of which the second goes on in the traffic at any rate. -/
theorem Hosted.bind (h : Hosted r v) (hv : Visit.Reachable anyConduct v)
    (hp : ∀ t, Plays r t → ∃ u, Relation.ReflTransGen (Leads anyConduct) t u ∧ Plays q u)
    (hh : ∀ w, Visit.Reachable anyConduct w → w.traffic.InRange → Hosts r w → Hosted q w) :
    Hosted q v := by
  obtain ⟨t, hr, ht, hhosts⟩ := h
  by_cases hrange : t.InRange
  · obtain ⟨w, hw, rfl, h⟩ := hhosts hrange
    exact (hh w (hw.reachable hv) hrange h).of_reaches hw hv
  · obtain ⟨u, hu, hplays⟩ := hp t ht
    exact ⟨u, hr.trans hu, hplays, fun hin => (hrange (inRange_of_leads hu hin)).elim⟩

section FollowersTurns

theorem Acts.withCatalog (h : Acts r v) (c : Catalog) (hs : w.sessions = v.sessions)
    (hid : w.id = v.id) (hf : w.follower = v.follower) : Acts (r.withCatalog c) w :=
  h.ignored ⟨⟨_, rfl⟩, rfl, .refl _⟩ hs hid hf

/-- The follower's task comes to wait for a call, and reloads at once if one has come in. -/
theorem Acts.rest (h : Acts r v) (hp : Plays r v.traffic) : Hosts (r.rest v.id) v.rest := by
  have hplays : Plays (r.rest v.id) v.rest.traffic := hp.rest v.id
  obtain ⟨m, hm⟩ := h.sessions
  have hduties := h.duties
  cases hagain : v.follower.again with
  | true =>
    have hv : v.rest = { v with follower := ⟨.reloading, false⟩, reload := .due } := by
      simp [Visit.rest, Follower.finish, hagain]
    have hr : r.rest v.id = { r.withFollower (some (v.id, ⟨.reloading, false⟩)) with
        queue := .start (.follower v.id) .reload :: r.queue } := by
      unfold Rehearsal.rest
      rw [h.follower]
      simp [Follower.finish, hagain, withFollower]
    rw [hr, hv] at hplays ⊢
    refine ⟨⟨⟨_, by rw [withFollower, hm]⟩, rfl⟩, hplays, ?_, fun n hn => by cases hn⟩
    have hstart : Turn.duty? v.id (.start (.follower v.id) .reload) = some (.begin .reload) :=
      if_pos rfl
    rw [Rehearsal.duties, List.filterMap_cons_some hstart]
    exact .cons _ (.of_eq hduties)
  | false =>
    have hv : v.rest = { v with follower := ⟨.resting, false⟩, reload := .idle } := by
      simp [Visit.rest, Follower.finish, hagain]
    have hr : r.rest v.id = r.withFollower (some (v.id, ⟨.resting, false⟩)) := by
      unfold Rehearsal.rest
      rw [h.follower]
      simp [Follower.finish, hagain]
    rw [hr, hv] at hplays ⊢
    exact ⟨⟨⟨_, by rw [withFollower, hm]⟩, rfl⟩, hplays, .of_eq hduties,
      fun n hn => by cases hn⟩

/-- The follower's reload is answered. -/
theorem Acts.finish {e : Errand} {xs ys : List Errand} {reply : e.await.Reply}
    {taken : Finset Int64} (h : Acts r v) (hr : v.reload = .underWay e.ticket)
    (hw : e.HasTicket) (hs : v.traffic.errands = xs ++ e :: ys)
    (ha : e.answer = some (reply, taken))
    (hp : Plays r { v.traffic with errands := xs ++ ys }) (n : Nat) :
    Hosted (r.goOn (.follower v.id) n e.await reply) v := by
  obtain ⟨t, hland, -, ht⟩ := Plays.land hs ha hp
  obtain ⟨number, hnumber⟩ := Option.isSome_iff_exists.mp hw
  obtain ⟨-, out, hout⟩ := Catalog.resume_landed r.now hnumber reply r.catalog
  have hgo : r.goOn (.follower v.id) n e.await reply =
      (r.withCatalog (r.catalog.resume r.now e.await reply).1).rest v.id := by
    unfold goOn
    rw [hout]
    cases n <;> rfl
  rw [hgo]
  refine ⟨t, .single ⟨_, hland⟩, ht.rest v.id, fun hin => ?_⟩
  have hstep := Visit.Step.finish hr hw (hland.in_time (hland.inRange hin))
  have hacts := h.withCatalog (w := v.after (.land e) t)
    (r.catalog.resume r.now e.await reply).1 rfl rfl rfl
  exact ⟨_, .tail (.refl v) hstep, rfl, hacts.rest ht⟩

/-- The follower's reload waits at a gate. -/
theorem Acts.wait {job : Job} {n : Nat} (h : Acts r v)
    (hp : Plays { r with jobs := r.jobs ++ [job] } v.traffic) (hr : v.reload = .underWay n)
    (hn : n ≤ v.traffic.tickets) (hd : job.duty? v.id = some (.await (some (.ofNat n)))) :
    Hosts { r with jobs := r.jobs ++ [job] } v := by
  refine ⟨⟨h.sessions, h.follower⟩, hp, ?_, ?_⟩
  · have hduties : v.duties = [.await (some (.ofNat n))] := by rw [Visit.duties, hr]
    rw [duties_wait, h.duties, hd, hduties]
    exact .refl _
  · intro m hm
    rw [hr] at hm
    cases hm
    exact hn

/-- The follower's reload has been begun, and the backend is asked. -/
theorem Acts.ask {xs : List Errand} {request : Request} {await : Await} {epoch : Nat}
    {before : Finset Int64} (h : Acts r v) (hv : Visit.Reachable anyConduct v)
    (hr : v.reload = .underWay v.traffic.tickets)
    (hs : v.traffic.errands =
      xs ++ (Progress.asks request await).errands v.traffic.tickets epoch before)
    (hw : await.ticket?.isSome) (hp : Plays r v.traffic) (n : Nat) :
    Hosted (r.pursue (.follower v.id) (n + 1) (.asks request await)) v := by
  obtain ⟨script, openings, calls, reply, hgoes⟩ :=
    pursue_asks (.follower v.id) n request await r
  obtain ⟨hstep, hdrop⟩ := hp.answer hs reply
  obtain ⟨x, hx, hxt⟩ := hv.bypass_step hstep fun _ he => by cases he
  let e : Errand :=
    { request, await, answer := some (reply, v.traffic.held), ticket := v.traffic.tickets, epoch
      before }
  have hxs : x.traffic.errands = xs ++ e :: [] := by rw [hxt]
  have hdrop : Plays { r with script, openings, calls }
      { x.traffic with errands := xs ++ [] } := by
    rw [hxt]
    exact hdrop.congr rfl rfl rfl
  have hacts : Acts { r with script, openings, calls } x :=
    h.ignored ⟨⟨_, rfl⟩, rfl, .refl _⟩ hx.sessions hx.id hx.follower
  have hxr : x.reload = .underWay e.ticket := hx.reload.trans hr
  rcases hgoes with hgoes | ⟨gate, hgoes⟩
  · have hfinish := hacts.finish (e := e) hxr hw hxs rfl hdrop n
    rw [hx.id] at hfinish
    rw [hgoes]
    exact hfinish.of_reaches hx.reaches hv
  · have hsent : (⟨request, await, none, v.traffic.tickets, epoch, before⟩ : Errand) ∈
        v.traffic.errands := by
      rw [hs]
      exact List.mem_append_right _ (List.mem_singleton_self _)
    obtain ⟨number, hnumber⟩ := Option.isSome_iff_exists.mp hw
    have hticket := (Visit.ticketed_reachable hv).ticket _ hsent number hnumber
    have hduty : Job.duty? x.id ⟨.follower v.id, gate, await, reply⟩ =
        some (.await (some (.ofNat v.traffic.tickets))) := by
      rw [Job.duty?, if_pos (by rw [hx.id]), hnumber, hticket]
    rw [hgoes]
    exact (hacts.wait (Plays.wait hxs rfl hdrop gate) hxr hx.tickets hduty).hosted hx.reaches hv

/-- The follower begins a reload, which ends at once or waits for the backend. -/
theorem Acts.launch (h : Acts r v) (hv : Visit.Reachable anyConduct v) (hp : Plays r v.traffic)
    (hr : v.reload = .due) : Hosted (r.launch (.follower v.id) .reload) v := by
  obtain ⟨hbegun, -⟩ := hp.start .reload
  have hbegin : Visit.Step anyConduct v .begin v.beginReload := .begin hr
  have hv₁ := hv.step hbegin
  have herrands : (v.traffic.start .reload).errands = v.traffic.errands ++
      (r.catalog.start r.now .reload).2.errands (v.traffic.start .reload).tickets
        (v.traffic.start .reload).epochs v.traffic.held := by
    rw [← hp.catalog, ← hp.now]
    rfl
  have hlaunch : r.launch (.follower v.id) .reload =
      (r.withCatalog (r.catalog.start r.now .reload).1).pursue (.follower v.id) 2
        (r.catalog.start r.now .reload).2 := rfl
  rw [hlaunch]
  generalize (r.catalog.start r.now .reload).2 = p at herrands
  generalize (r.catalog.start r.now .reload).1 = c at hbegun
  cases p with
  | ends out =>
    -- The cache has the page.
    have hbegan : v.beginReload = (v.after (.start .reload) (v.traffic.start .reload)).rest :=
      if_pos (by rw [herrands]; simp [Progress.errands])
    have hacts := h.withCatalog
      (w := v.after (.start .reload) (v.traffic.start .reload)) c rfl rfl rfl
    have hrest := hacts.rest hbegun
    rw [hbegan] at hbegin
    exact hrest.hosted (.tail (.refl v) hbegin) hv
  | asks request w =>
    obtain ⟨hticket, hsame | ⟨e, he, hw, hn⟩⟩ := Visit.start_reload v.traffic
    · rw [herrands] at hsame
      simp [Progress.errands] at hsame
    rw [herrands] at he
    have hbegan : v.beginReload =
        { v.after (.start .reload) (v.traffic.start .reload) with
          reload := .underWay (v.traffic.start .reload).tickets } :=
      if_neg (by rw [herrands]; simp [Progress.errands])
    have hsent := (List.append_cancel_left he).symm
    cases hsent
    have hacts := h.withCatalog (w := v.beginReload) c (by rw [hbegan]; rfl)
      (by rw [hbegan]; rfl) (by rw [hbegan]; rfl)
    rw [hbegan] at hbegin hv₁ hacts
    have hask := hacts.ask hv₁ rfl herrands hw hbegun 1
    exact hask.of_reaches (.tail (.refl v) hbegin) hv

end FollowersTurns

section Turns

variable {d : Duty} {op : Operation} {ticket? : Option UInt64} {job : Job}

/-- How a turn of a follower's task comes to be due. -/
inductive Owes (id : Nat) : Turn → Duty → Prop
  | rest : Owes id (.rest id) .rest
  | wake : Owes id (.reload id) .wake
  | begin (op : Operation) : Owes id (.start (.follower id) op) (.begin op)
  | await (gate : String) (w : Await) (reply : w.Reply) :
      Owes id (.resume ⟨.follower id, gate, w, reply⟩) (.await w.ticket?)

theorem owes_of_duty? (h : turn.duty? id = some d) : Owes id turn d := by
  cases turn with
  | settle n => cases h
  | resume job =>
    obtain ⟨caller, gate, w, reply⟩ := job
    rw [Turn.duty?, Job.duty?] at h
    split at h
    · rename_i hc
      cases hc
      cases h
      exact .await gate w reply
    · cases h
  | start caller op =>
    rw [Turn.duty?] at h
    split at h
    · rename_i hc
      cases hc
      cases h
      exact .begin op
    · cases h
  | rest follower =>
    rw [Turn.duty?] at h
    split at h
    · rename_i hid
      cases hid
      cases h
      exact .rest
    · cases h
  | reload follower =>
    rw [Turn.duty?] at h
    split at h
    · rename_i hid
      cases hid
      cases h
      exact .wake
    · cases h

/-- What the follower's task is to do in a visit. -/
inductive Due (v : Visit) : Duty → Prop
  | rest (h : v.follower.stage = .starting) : Due v .rest
  | wake (h : v.follower.stage = .called) : Due v .wake
  | begin (h : v.reload = .due) : Due v (.begin .reload)
  | await {n : Nat} (h : v.reload = .underWay n) : Due v (.await (some (.ofNat n)))

theorem due_of_duties (h : v.duties = [d]) : Due v d := by
  unfold Visit.duties at h
  split at h
  · rename_i hr
    cases h
    exact .begin hr
  · rename_i hr
    cases h
    exact .await hr
  · split at h
    · rename_i hs
      cases h
      exact .rest hs
    · rename_i hs
      cases h
      exact .wake hs
    · cases h
    · cases h

theorem length_duties (v : Visit) : v.duties.length ≤ 1 := by
  unfold Visit.duties
  split
  · exact le_rfl
  · exact le_rfl
  · split
    · exact le_rfl
    · exact le_rfl
    · exact Nat.zero_le 1
    · exact Nat.zero_le 1

/-- A turn of the follower's task is all that waits of it. -/
theorem Hosts.duty (h : Hosts r v) (hq : r.queue = turn :: turns)
    (hd : turn.duty? v.id = some d) : Due v d ∧ Acts { r with queue := turns } v := by
  have hperm := h.duties
  rw [duties_dequeue hq, hd] at hperm
  have hlength := hperm.length_eq
  have hle := length_duties v
  have hnil : ({ r with queue := turns } : Rehearsal α).duties v.id = [] := by
    rw [← List.length_eq_zero_iff]
    simp only [Option.toList_some, List.cons_append, List.nil_append, List.length_cons] at hlength
    omega
  rw [hnil] at hperm
  exact ⟨due_of_duties (List.singleton_perm.mp hperm).symm, ⟨h.sessions, h.follower⟩, hnil⟩

theorem eq_resume_of_duty? (h : turn.duty? id = some (.await ticket?)) :
    ∃ job, turn = .resume job ∧ job.await.ticket? = ticket? := by
  cases owes_of_duty? h with
  | await gate w reply => exact ⟨_, rfl, rfl⟩

/-- The reply for a reload of the follower is on its way. -/
theorem Plays.errand_of_duty {n : UInt64} (h : Plays r s)
    (hd : .await (some n) ∈ r.duties id) : ∃ e ∈ s.errands, e.await.ticket? = some n := by
  have hjob : ∃ j : Job, j.pledge ∈ r.pledges ∧ j.await.ticket? = some n := by
    rcases List.mem_append.mp hd with hd | hd
    · obtain ⟨turn, hturn, hd⟩ := List.mem_filterMap.mp hd
      obtain ⟨job, rfl, hticket⟩ := eq_resume_of_duty? hd
      have hpledge : job.pledge ∈ r.queue.filterMap Turn.pledge? :=
        List.mem_filterMap.mpr ⟨_, hturn, rfl⟩
      exact ⟨job, List.mem_append_right _ hpledge, hticket⟩
    · obtain ⟨job, hjob, hd⟩ := List.mem_filterMap.mp hd
      have hresume : Turn.duty? id (.resume job) = some (.await (some n)) := hd
      obtain ⟨_, he, hticket⟩ := eq_resume_of_duty? hresume
      cases he
      exact ⟨job, List.mem_append_left _ (List.mem_map_of_mem hjob), hticket⟩
  obtain ⟨job, hpledge, hticket⟩ := hjob
  obtain ⟨e, he, hpe⟩ := List.mem_filterMap.mp (h.pledges.subset hpledge)
  obtain ⟨a, -, hae⟩ := Option.map_eq_some_iff.mp hpe
  have hawait : e.await = job.await := congrArg Sigma.fst hae
  exact ⟨e, he, hawait ▸ hticket⟩

/-- A reply for the ticket of the follower's reload tells it by its number. -/
theorem Hosts.ticket_eq {e : Errand} {n : Nat} (h : Hosts r v)
    (hv : Visit.Reachable anyConduct v) (hin : v.traffic.InRange) (he : e ∈ v.traffic.errands)
    (hr : v.reload = .underWay n) (hw : e.await.ticket? = some (.ofNat n)) : n = e.ticket := by
  have ht := Visit.ticketed_reachable hv
  have hle := (ht.le e he).1
  have hissued := h.issued n hr
  have hlt := hin.tickets
  exact ofNat_injOn (ht.ticket e he _ hw) (by omega) (by omega)

/-- A reply that another operation waits for is none to the follower. -/
theorem Hosts.not_underWay {xs ys : List Errand} {e : Errand} (h : Hosts r v)
    (hv : Visit.Reachable anyConduct v) (hin : v.traffic.InRange)
    (hq : r.queue = turn :: turns) (hd : turn.duty? v.id = none)
    (hs : v.traffic.errands = xs ++ e :: ys)
    (hp : Plays { r with queue := turns } { v.traffic with errands := xs ++ ys })
    (hw : e.HasTicket) : v.reload ≠ .underWay e.ticket := by
  intro hr
  have hperm := h.duties
  rw [duties_dequeue hq, hd, Visit.duties, hr] at hperm
  obtain ⟨e', he', hw'⟩ :=
    hp.errand_of_duty (hperm.symm.subset (List.mem_singleton_self _))
  have hsame : e.ticket = e'.ticket := h.ticket_eq hv hin (mem_of_drop hs e' he') hr hw'
  -- But no two requests under way have the same ticket.
  obtain ⟨n, hn⟩ := Option.isSome_iff_exists.mp hw
  obtain ⟨b, hb, -⟩ := Errand.seeks?_of_ticket? hn
  obtain ⟨b', hb', -⟩ := Errand.seeks?_of_ticket? hw'
  have hsingle := (phased_lateReachable (Visit.traffic_reachable hv).late).single
  have hloses := Loses.of_errands (t := { v.traffic with errands := xs ++ ys }) hsingle hs hb rfl
    rfl
  have hmem : (e'.ticket, b') ∈ ({ v.traffic with errands := xs ++ ys } : Traffic).sought :=
    List.mem_filterMap.mpr ⟨e', he', hb'⟩
  exact (hloses.rest _ (hloses.sublist.subset hmem)).mp hmem hsame.symm

/-- The follower has no part in what happens, and no reply comes to it. -/
theorem Hosts.aside {m : Nat} (h : Hosts r v) (hv : Visit.Reachable anyConduct v)
    (hw : v.Bypasses w) (hs : Relation.ReflTransGen (GoesOn m) w.traffic t)
    (hm : v.traffic.tickets ≤ m) (hi : Ignores v.id r q) (hq : Plays q t) : Hosted q v := by
  have hchain := leads_of_continues (continues_of_goesOn hs)
  refine ⟨t, (hw.reaches.leads hv).trans hchain, hq, fun hin => ?_⟩
  have hissued : ∀ n, w.reload = .underWay n → n ≤ m := by
    intro n hn
    exact (h.issued n (hw.reload ▸ hn)).trans hm
  obtain ⟨x, hx, rfl⟩ := (hw.reaches.reachable hv).bypass hs hin hissued
  exact ⟨x, hw.reaches.trans hx.reaches, rfl, h.ignored (hw.trans hx) hi hq⟩

/-- A turn of others. -/
theorem Hosts.turn_aside (h : Hosts r v) (hv : Visit.Reachable anyConduct v)
    (hin : v.traffic.InRange) (hq : r.queue = turn :: turns) (hd : turn.duty? v.id = none) :
    Hosted (({ r with queue := turns } : Rehearsal α).takeTurn turn) v := by
  have hf : ({ r with queue := turns } : Rehearsal α).follower?.map Prod.fst = some v.id :=
    congrArg (Option.map Prod.fst) h.follower
  have hi := (ignores_dequeue hq hd).trans (ignores_takeTurn _ hf hd)
  by_cases hresume : ∃ job, turn = .resume job
  · obtain ⟨job, rfl⟩ := hresume
    rw [Rehearsal.takeTurn] at hi ⊢
    split
    · rename_i halive
      rw [if_pos halive] at hi
      obtain ⟨xs, e, ys, reply, taken, hs, ha, hp, hdrop⟩ := h.plays.pledged hq
      have hother := h.not_underWay hv hin hq hd hs hdrop
      obtain ⟨caller, gate, await, reply'⟩ := job
      cases hp
      obtain ⟨u, t, hland, hut, ht⟩ := Plays.resume hs ha hdrop caller callsPerOperation
      have hn : ∀ e', .land e = Event.land e' → e'.HasTicket →
          v.reload ≠ .underWay e'.ticket := by
        intro e' he
        cases he
        exact hother
      obtain ⟨w, hw, rfl⟩ := hv.bypass_step (hland.in_time hin) hn
      exact h.aside hv hw hut le_rfl hi ht
    · exact Hosts.hosted (h.ignored (.refl v) (ignores_dequeue hq hd) (h.plays.dequeue hq))
        (.refl v) hv
  · obtain ⟨t, hst, ht⟩ := h.plays.turn_unanswered hq fun job hj => hresume ⟨job, hj⟩
    cases hb : r.begins? turn with
    | none =>
      rw [hb] at hst
      exact h.aside hv (.refl v) hst le_rfl hi ht
    | some op =>
      rw [hb] at hst
      obtain ⟨w, hw, hwt⟩ := hv.bypass_step (.start v.traffic op) fun _ he => by cases he
      refine h.aside hv hw ?_ le_rfl hi ht
      rw [hwt]
      exact hst

/-- A turn of the follower's task. -/
theorem Hosts.turn_own (h : Hosts r v) (hv : Visit.Reachable anyConduct v)
    (hin : v.traffic.InRange) (hq : r.queue = turn :: turns) (hd : turn.duty? v.id = some d) :
    Hosted (({ r with queue := turns } : Rehearsal α).takeTurn turn) v := by
  obtain ⟨hdue, hacts⟩ := h.duty hq hd
  have hp := h.plays.dequeue hq
  have halive : ({ r with queue := turns } : Rehearsal α).isAlive (.follower v.id) = true := by
    simp [isAlive, hacts.follower]
  cases owes_of_duty? hd with
  | rest =>
    cases hdue with
    | rest hstage =>
      have harrive := Visit.Step.arrive (k := anyConduct) hstage
      exact (hacts.rest hp).hosted (.tail (.refl v) harrive) hv
  | wake =>
    cases hdue with
    | wake hstage =>
      have hwake := Visit.Step.wake (k := anyConduct) hstage
      let w : Visit := { v with follower := v.follower.run, reload := .due }
      obtain ⟨m, hm⟩ := hacts.sessions
      have hawake : Acts (({ r with queue := turns } : Rehearsal α).withFollower
          (some (v.id, v.follower.run))) w :=
        ⟨⟨⟨_, by rw [withFollower, hm]⟩, rfl⟩, hacts.duties⟩
      have hlaunch := hawake.launch (hv.step hwake) (hp.withFollower hacts.follower) rfl
      rw [Rehearsal.takeTurn, hacts.follower]
      simp only [if_true]
      exact hlaunch.of_reaches (.tail (.refl v) hwake) hv
  | begin =>
    cases hdue with
    | begin hreload =>
      rw [Rehearsal.takeTurn, if_pos halive]
      exact hacts.launch hv hp hreload
  | await gate await reply =>
    generalize hticket : await.ticket? = ticket? at hdue
    cases hdue with
    | await hreload =>
      obtain ⟨xs, e, ys, reply', taken, hs, ha, hpledge, hdrop⟩ := h.plays.pledged hq
      cases hpledge
      have hsame := h.ticket_eq hv hin (by simp [hs]) hreload hticket
      have hw : e.HasTicket := Option.isSome_iff_exists.mpr ⟨_, hticket⟩
      rw [Rehearsal.takeTurn, if_pos halive]
      exact hacts.finish (hsame ▸ hreload) hw hs ha hdrop callsPerOperation

theorem Hosted.run (n : Nat) (h : Hosted r v) (hv : Visit.Reachable anyConduct v) :
    Hosted (r.run n) v := by
  induction n generalizing r with
  | zero => exact h
  | succ n ih =>
    rw [Rehearsal.run]
    cases hq : r.queue with
    | nil => exact h
    | cons turn turns =>
      refine ih (h.bind hv (fun _ hp => hp.leads_takeTurn hq) fun w hw hin hh => ?_)
      cases hd : turn.duty? w.id with
      | none => exact hh.turn_aside hw hin hq hd
      | some d => exact hh.turn_own hw hin hq hd

end Turns

section Cues

variable {u : SessionStore Desk} {change : SessionStore Desk → Option (SessionStore Desk)}

theorem Hosts.still (h : Hosts r v) (hi : Ignores v.id r q) (hq : Plays q v.traffic) :
    Hosts q v := h.ignored (.refl v) hi hq

theorem Hosts.congr (h : Hosts r v) (hs : q.sessions = r.sessions) (hn : q.now = r.now)
    (hp : q.pledges = r.pledges) (hd : q.duties v.id = r.duties v.id) : Hosts q v := by
  refine h.still ⟨⟨r.sessions.memory, hs⟩, ?_, .of_eq hd⟩ (h.plays.congr hs hn hp)
  rw [follower?, hs]
  rfl

theorem Hosts.enqueue (h : Hosts r v) (hd : turn.duty? v.id = none)
    (hp : turn.pledge? = none) : Hosts (r.enqueue turn) v :=
  h.still (ignores_enqueue r hd) (h.plays.enqueue hp)

theorem summons_of_follower {f g : Follower} (hf : r.follower? = some (id, f))
    (hg : u.memory.follower = some (id, g)) :
    r.summons u = if g.stage = .called ∧ f.stage ≠ .called then [.reload id] else [] := by
  unfold summons
  rw [hg, hf]
  simp

/-- A change of the session may call the follower, which heeds the call later. -/
theorem Hosts.changeSession (h : Hosts r v) (hv : Visit.Reachable anyConduct v)
    (hc : change r.sessions = some u) (hu : Desk.Told r.sessions u) :
    Hosts (r.changeSession change) (v.changed u) := by
  have hplays : Plays (r.changeSession change) (v.changed u).traffic :=
    h.plays.changed hc hu.sole rfl rfl rfl
  have hf : r.sessions.memory.follower = some (v.id, v.follower) := h.follower
  rw [changeSession_eq hc] at hplays ⊢
  rcases hu.memory with ⟨hm, -⟩ | ⟨hm, -⟩
  · have hg : u.memory.follower = some (v.id, v.follower) := by rw [hm, hf]
    have hsame : (v.changed u).follower = v.follower := by simp [Visit.changed, hg]
    have hsummons : r.summons u = [] := by
      rw [summons_of_follower h.follower hg, if_neg (by tauto)]
    have hduties : (v.changed u).duties = v.duties :=
      Visit.duties_congr rfl (congrArg Follower.stage hsame)
    refine ⟨⟨⟨_, rfl⟩, ?_⟩, hplays, ?_, h.issued⟩
    · rw [hsame]
      exact hg
    · rw [hduties, hsummons, List.append_nil]
      exact h.duties
  · have hg : u.memory.follower = some (v.id, v.follower.call) := by
      rw [hm, Desk.sessionChanged, hf]
      rfl
    have hcall : (v.changed u).follower = v.follower.call := by simp [Visit.changed, hg]
    refine ⟨⟨⟨_, rfl⟩, ?_⟩, hplays, ?_, h.issued⟩
    · rw [hcall]
      exact hg
    · rw [summons_of_follower h.follower hg]
      by_cases hrest : v.follower.stage = .resting
      · have hcalled : v.follower.call.stage = .called := by simp [Follower.call, hrest]
        have hidle : v.reload = .idle :=
          (Visit.manned_reachable hv).idle.mpr (by simp [hrest])
        have hnone : v.duties = [] := by rw [Visit.duties, hidle, hrest]
        have hwake : (v.changed u).duties = [.wake] := by
          have hstage : (v.changed u).follower.stage = .called := hcall ▸ hcalled
          have hreload : (v.changed u).reload = .idle := hidle
          rw [Visit.duties, hreload, hstage]
        have hturn : Turn.duty? v.id (.reload v.id) = some .wake := if_pos rfl
        have hduties := duties_enqueue v.id (.reload v.id) { r with sessions := u }
        have hold := h.duties
        rw [hnone] at hold
        rw [hturn, show ({ r with sessions := u } : Rehearsal α).duties v.id = [] from
          hold.eq_nil] at hduties
        rw [if_pos ⟨hcalled, by simp [hrest]⟩, hwake]
        exact hduties
      · have hstage : v.follower.call.stage = v.follower.stage := by
          cases hs : v.follower.stage <;> simp [Follower.call, hs] at hrest ⊢
        have hduties : (v.changed u).duties = v.duties :=
          Visit.duties_congr rfl (by rw [hcall, hstage])
        rw [if_neg (by rw [hstage]; tauto), hduties, List.append_nil]
        exact h.duties

theorem Hosts.enter (h : Hosts r v) (hv : Visit.Reachable anyConduct v) (x : Session) :
    ∃ w, v.Reaches w ∧ Hosts (r.enter x) w := by
  obtain ⟨u, hu, htold⟩ := h.plays.sole.enter (v := x) (c := r.calling) 1 rfl
  have hstore := hu
  rw [← h.store] at hstore
  have hfair : r.calling.Fair := fun _ => .refl _
  exact ⟨_, .tail (.refl v) (.enter hfair hstore), h.changeSession hv hu htold⟩

theorem Hosts.leave (h : Hosts r v) (hv : Visit.Reachable anyConduct v) :
    ∃ w, v.Reaches w ∧ Hosts r.leave w := by
  obtain ⟨u, hu, htold⟩ := h.plays.sole.leave (c := r.calling) 1 rfl
  have hstore := hu
  rw [← h.store] at hstore
  have hfair : r.calling.Fair := fun _ => .refl _
  exact ⟨_, .tail (.refl v) (.leave hfair hstore), h.changeSession hv hu htold⟩

theorem Hosts.release (h : Hosts r v) (gate : String) : Hosts (r.release gate) v := by
  have hp := h.plays.release gate
  rcases release_cases gate r with hr | ⟨js, job, js', hs, hr⟩
  · rw [hr] at hp ⊢
    exact h.still ⟨⟨_, rfl⟩, rfl, .refl _⟩ hp
  · have hold : (r.duties v.id).Perm ((job.duty? v.id).toList ++
        ({ r with jobs := js ++ js' } : Rehearsal α).duties v.id) := by
      rw [Rehearsal.duties, Rehearsal.duties, hs, List.filterMap_append, List.filterMap_append,
        List.filterMap_cons]
      cases job.duty? v.id with
      | none => exact .refl _
      | some d =>
        simp only [Option.toList_some, List.cons_append, List.nil_append, ← List.append_assoc]
        exact List.perm_middle
    rw [hr] at hp ⊢
    exact h.still ⟨⟨_, rfl⟩, rfl, (duties_enqueue v.id (.resume job) _).trans hold.symm⟩ hp

theorem Hosts.startTask (h : Hosts r v) (task : Task) : Hosts (r.startTask task) v := by
  cases task with
  | operation op => exact h.enqueue (by simp [Turn.duty?]) rfl
  | settle ticket => exact h.enqueue rfl rfl

theorem Hosts.carryOut (h : Hosts r v) (hv : Visit.Reachable anyConduct v) (i : Intent) :
    ∃ w, v.Reaches w ∧ Hosts (r.carryOut i) w := by
  cases i with
  | work task => exact ⟨v, .refl v, h.startTask task⟩
  | leaveSession => exact h.leave hv
  | opened id => exact ⟨v, .refl v, h.enqueue (by simp [Turn.duty?]) rfl⟩
  | clearCache =>
    obtain ⟨w, hw, hwt⟩ := hv.bypass_step (.evict (List.nil_sublist _)) fun _ he => by cases he
    exact ⟨w, hw.reaches, h.ignored hw ⟨⟨_, rfl⟩, rfl, .refl _⟩ (hwt ▸ h.plays.clear)⟩

/-- One thing after the other is done. -/
theorem Hosts.foldl {β : Type} {f : Rehearsal α → β → Rehearsal α}
    (hf : ∀ (r : Rehearsal α) (v : Visit) (b : β), Hosts r v → Visit.Reachable anyConduct v →
      ∃ w, v.Reaches w ∧ Hosts (f r b) w)
    (bs : List β) (h : Hosts r v) (hv : Visit.Reachable anyConduct v) :
    ∃ w, v.Reaches w ∧ Hosts (bs.foldl f r) w := by
  induction bs generalizing r v with
  | nil => exact ⟨v, .refl v, h⟩
  | cons b bs ih =>
    obtain ⟨w, hw, hh⟩ := hf r v b h hv
    obtain ⟨x, hx, hhx⟩ := ih hh (hw.reachable hv)
    exact ⟨x, hw.trans hx, hhx⟩

theorem Hosts.settleAll (tickets : List UInt64) (h : Hosts r v) :
    Hosts (tickets.foldl (fun r ticket => r.enqueue (.settle ticket)) r) v := by
  induction tickets generalizing r with
  | nil => exact h
  | cons ticket tickets ih => exact ih (h.enqueue rfl rfl)

theorem Hosts.advance (h : Hosts r v) (hv : Visit.Reachable anyConduct v) (span : Nanos) :
    ∃ w, v.Reaches w ∧ Hosts (r.advance span) w := by
  obtain ⟨w, hw, hwt⟩ := hv.bypass_step (.wait v.traffic span) fun _ he => by cases he
  have hwait : Plays { r with now := r.now + span } w.traffic := by
    rw [hwt]
    exact ⟨h.plays.catalog, congrArg (· + span) h.plays.now, h.plays.pledges, h.plays.sole⟩
  have hh : Hosts { r with now := r.now + span } w :=
    h.ignored hw ⟨⟨_, rfl⟩, rfl, .refl _⟩ hwait
  exact ⟨w, hw.reaches, hh.settleAll _⟩

theorem Hosts.invalidate (h : Hosts r v) (hv : Visit.Reachable anyConduct v) :
    ∃ w, v.Reaches w ∧ Hosts (r.withCatalog r.catalog.outdate) w := by
  obtain ⟨w, hw, hwt⟩ := hv.bypass_step (.outdate v.traffic) fun _ he => by cases he
  have hplays : Plays (r.withCatalog r.catalog.outdate) w.traffic := by
    rw [hwt, ← h.plays.catalog]
    exact ⟨rfl, h.plays.now, h.plays.pledges, h.plays.sole.congr rfl rfl rfl⟩
  exact ⟨w, hw.reaches, h.ignored hw ⟨⟨_, rfl⟩, rfl, .refl _⟩ hplays⟩

variable [Length α]

theorem Hosts.dispatch (h : Hosts r v) (e : SurfaceEvent α) : Hosts (r.dispatch e).1 v := by
  unfold Rehearsal.dispatch
  obtain ⟨surface, task?⟩ := r.app.surface.dispatch r.now e
  have happ : Hosts { r with app := { r.app with surface } } v :=
    h.congr rfl rfl rfl rfl
  cases task? with
  | none => exact happ
  | some task => exact happ.startTask task

theorem Hosts.press (h : Hosts r v) (hv : Visit.Reachable anyConduct v) (k : KeyPress) :
    ∃ w, v.Reaches w ∧ Hosts (r.press k) w := by
  have happ : Hosts
      { r with
        app := (r.app.press r.now r.catalog k).app
        quit := r.quit || (r.app.press r.now r.catalog k).quit } v :=
    h.congr rfl rfl rfl rfl
  exact happ.foldl (fun _ _ i h hv => h.carryOut hv i) _ hv

theorem Hosts.take {cue : Cue α} (h : Hosts r v) (hv : Visit.Reachable anyConduct v) (n : Nat)
    (hc : cue.isVisit = true) : ∃ w, v.Reaches w ∧ Hosts (r.take n cue).1 w := by
  cases cue with
  | follow => cases hc
  | unfollow => cases hc
  | cacheGet d => cases hc
  | release gate => exact ⟨v, .refl v, h.release gate⟩
  | operation op => exact ⟨v, .refl v, h.enqueue (by simp [Turn.duty?]) rfl⟩
  | cacheClear => exact h.carryOut hv .clearCache
  | invalidate => exact h.invalidate hv
  | advance span => exact h.advance hv span
  | enter session => exact h.enter hv session
  | leave => exact h.leave hv
  | dispatch event => exact ⟨v, .refl v, h.dispatch event⟩
  | keys presses => exact h.foldl (fun _ _ k h hv => h.press hv k) presses hv
  | _ =>
    exact ⟨v, .refl v, h.congr rfl rfl rfl rfl⟩

theorem Hosts.attend (h : Hosts r v) : Hosts r.attend v := by
  have hp := h.plays.attend
  unfold Rehearsal.attend at hp ⊢
  split at hp
  · rename_i hattended
    rw [if_pos hattended]
    exact h.still ⟨⟨_, rfl⟩, rfl, .refl _⟩ hp
  · rename_i hnot
    rw [if_neg hnot]
    exact h

theorem Hosted.attend (h : Hosted r v) (hv : Visit.Reachable anyConduct v) :
    Hosted r.attend v :=
  h.bind hv (fun t hp => ⟨t, .refl, hp.attend⟩) fun w hw _ hh =>
    hh.attend.hosted (.refl w) hw

/-- What a cue leads to, once its immediate effect is there. -/
theorem Hosts.settled (h : Hosts r v) (hv : Visit.Reachable anyConduct v) :
    Hosted r.runAll.attend v :=
  ((h.hosted (.refl v) hv).run _ hv).attend hv

theorem Hosted.play {cue : Cue α} (h : Hosted r v) (hv : Visit.Reachable anyConduct v) (n : Nat)
    (hc : cue.isVisit = true) : Hosted (r.play n cue).1 v := by
  have hget : ∀ d, cue ≠ .cacheGet d := by
    rintro d rfl
    cases hc
  refine h.bind hv (fun t hp => hp.play n hget) fun w hw _ hh => ?_
  have hcue : Hosts
      { r with calls := [], ended := [], app := { r.app with needsRedraw := false } } w :=
    hh.congr rfl rfl rfl rfl
  obtain ⟨x, hx, hhx⟩ := hcue.take hw n hc
  exact (hhx.settled (hx.reachable hw)).of_reaches hx hw

theorem Hosted.playAll {cues : List (Nat × Cue α)} (h : Hosted r v)
    (hv : Visit.Reachable anyConduct v) (hc : ∀ c ∈ cues, c.2.isVisit = true) :
    Hosted (r.playAll cues) v := by
  induction cues generalizing r with
  | nil => exact h
  | cons c cues ih =>
    simp only [List.mem_cons, forall_eq_or_imp] at hc
    exact ih (h.play hv c.1 hc.1) hc.2

omit [Length α] in
/-- A follower is attached before anything else. -/
theorem Fresh.hosts (h : Fresh r) : ∃ v, v.Initial ∧ Hosts r.follow v := by
  have hf : r.sessions.memory.follower = none := h.follower
  have hvacant : Desk.Vacant r.sessions := by
    refine ⟨hf, ?_, ?_, ?_⟩ <;> simp [h.listeners]
  have hfollower : (Desk.follow r.sessions).memory.follower = some (r.sessions.nextId, {}) := by
    simp [Desk.follow, SessionStore.subscribe, hf]
  refine ⟨_, ⟨r.opening, r.sessions, h.initial, hvacant, rfl⟩, ⟨⟨_, rfl⟩, hfollower⟩,
    h.plays.follow, ?_, fun n hn => by cases hn⟩
  have hduties : r.follow.duties r.sessions.nextId = [.rest] := by
    simp [Rehearsal.duties, Rehearsal.follow, Rehearsal.enqueue, Rehearsal.dropDead, h.queue,
      h.jobs, Turn.duty?]
  exact .of_eq hduties

end Cues

/-- A follower is attached first, and then anything happens. The catalog, the session and the
follower stand where they stand in a run of a visit, until the numbers of the tickets or of the
epochs start over. -/
theorem visit_playAll [Length α] (h : Fresh r) (n : Nat) {cues : List (Nat × Cue α)}
    (hc : ∀ c ∈ cues, c.2.isVisit = true) :
    ∃ v, v.Initial ∧ Hosted ((r.play n .follow).1.playAll cues) v := by
  have hfresh : Fresh
      { r with calls := [], ended := [], app := { r.app with needsRedraw := false } } :=
    ⟨h.catalog, h.follower, h.listeners, h.jobs, h.queue⟩
  obtain ⟨v, hv, hhosts⟩ := hfresh.hosts
  have hreach := hv.reachable anyConduct
  exact ⟨v, hv, (hhosts.settled hreach).playAll hreach hc⟩

end Rehearsal
end Companions
