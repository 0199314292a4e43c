import Companions.Proofs.SessionChange
import Companions.Proofs.SingleWriter

/-! A catalog in traffic while the visiting session changes, with a follower attached from the start.
Any step of the traffic may fall between two changes of the session, and anyone may use the store. -/
namespace Companions

/-- What an observer knows of a ticket: the session in which it was issued, and the one with which
its request was signed. -/
structure Papers where
  issued : Option Session := none
  signed : Option Session := none
  deriving DecidableEq

/-- How the follower's task stands to a reload of its own. -/
inductive Reload
  | idle
  /-- To be begun. -/
  | due
  | underWay (ticket : Nat)
  deriving DecidableEq

structure Visit where
  traffic : Traffic
  /-- The memory of the store is filled in for each change of the session. -/
  sessions : SessionStore Desk
  /-- The follower's subscription. -/
  id : Nat
  follower : Follower := {}
  reload : Reload := .idle
  papers : Nat → Papers := fun _ => {}
  /-- Whose flags were turned over, each with the session it was done in, oldest first. -/
  turned : List (Int64 × Session) := []

/-- What happens in a visit. -/
inductive Happening
  /-- An event of the traffic that does not concern the follower. -/
  | traffic (a : Event)
  /-- A request for a ticket is signed. -/
  | sign (e : Errand)
  /-- The session is replaced so many times, those by listeners included. -/
  | change (times : Nat)
  /-- Another listener comes or goes. -/
  | listen
  /-- The follower's task waits for the first time. -/
  | arrive
  /-- The follower's task runs on, having been called. -/
  | wake
  /-- The follower begins a reload. -/
  | begin
  /-- The follower's reload is answered. -/
  | finish (e : Errand)

/-- The companion whose flag an event turns over. -/
def Event.turns? (s : Traffic) : Event → Option Int64
  | .start (.toggle id) =>
    if s.catalog.pendingFor? id = none then (s.catalog.shown.roster.flag? id).map fun _ => id
    else none
  | _ => none

/-- Several epochs have begun. -/
def Traffic.outdated (n : Nat) (s : Traffic) : Traffic :=
  { s with catalog := Catalog.outdate^[n] s.catalog, epochs := s.epochs + n }

section Seek
variable {s : Traffic} {q : Quest} {p : Kept}

/-- A quest takes a ticket, and sends an errand for it or none. -/
theorem Traffic.seek_sends (ho : s.catalog.Offers q) :
    (s.seek q).tickets = s.tickets + 1 ∧ (s.seek q).epochs = s.epochs ∧
      ((s.seek q).errands = s.errands ∨
        ∃ e : Errand, (s.seek q).errands = s.errands ++ [e] ∧ e.answer = none ∧ e.HasTicket ∧
          e.ticket = s.tickets + 1 ∧ e.epoch = s.epochs) := by
  have h := Traffic.seek_sought ho
  generalize s.seek q = t at h
  cases h with
  | hit => exact ⟨rfl, rfl, Or.inl rfl⟩
  | ask =>
    have hw : (s.catalog.awaitFor q).ticket?.isSome = true := by
      unfold Catalog.awaitFor
      split <;> rfl
    exact ⟨rfl, rfl, Or.inr ⟨_, rfl, rfl, hw, rfl, rfl⟩⟩

theorem Traffic.mem_of_mem_seek (ho : s.catalog.Offers q)
    (hp : p ∈ (s.seek q).catalog.cache.pages) : p ∈ s.catalog.cache.pages := by
  have h := Traffic.seek_sought ho
  generalize s.seek q = t at h hp
  cases h with
  | hit => exact PageCache.mem_of_mem_get hp
  | ask hc => exact PageCache.mem_of_eq_or_get hc hp

end Seek

namespace Visit

def session (s : Visit) : Session := s.sessions.session

/-- The store as a change of the session finds it. -/
def store (s : Visit) : SessionStore Desk :=
  { s.sessions with memory := ⟨s.traffic.catalog, some (s.id, s.follower)⟩ }

/-- The session has been changed, and this is the store now. -/
def changed (u : SessionStore Desk) (s : Visit) : Visit :=
  { s with
    traffic :=
      { s.traffic with
        catalog := u.memory.catalog
        epochs := s.traffic.epochs + (u.sent - s.sessions.sent) }
    sessions := u
    follower := (u.memory.follower.map (·.2)).getD s.follower }

/-- An event of the traffic has led to `t`. -/
def after (a : Event) (t : Traffic) (s : Visit) : Visit :=
  { s with
    traffic := t
    papers :=
      if t.tickets = s.traffic.tickets then s.papers
      else Function.update s.papers t.tickets { issued := some s.session }
    turned := s.turned ++ (a.turns? s.traffic).toList.map fun id => (id, s.session) }

def sign (e : Errand) (s : Visit) : Visit :=
  { s with
    papers := Function.update s.papers e.ticket
      { s.papers e.ticket with signed := some s.session } }

/-- The follower's task comes to wait for a call. -/
def rest (s : Visit) : Visit :=
  { s with follower := s.follower.finish.2, reload := if s.follower.finish.1 then .due else .idle }

/-- The follower's task begins a reload, which is over at once if the cache has the page. -/
def beginReload (s : Visit) : Visit :=
  let t := s.traffic.start .reload
  if t.errands.length = s.traffic.errands.length then (s.after (.start .reload) t).rest
  else { s.after (.start .reload) t with reload := .underWay t.tickets }

/-- Every page on its way answers a request that was signed. -/
def Signed (papers : Nat → Papers) (t : Traffic) : Prop :=
  ∀ e ∈ t.errands, e.page?.isSome → (papers e.ticket).signed.isSome

/-- A follower is attached, at any time. The store may be in use already, by listeners that keep
apart from the follower. -/
def Opened (k : Conduct) (s : Visit) : Prop :=
  ∃ (traffic : Traffic) (sessions : SessionStore Desk) (papers : Nat → Papers)
    (turned : List (Int64 × Session)),
    Companions.Reachable k traffic ∧ Desk.Vacant sessions ∧ Signed papers traffic ∧
      s = { traffic, sessions := Desk.follow sessions, id := sessions.nextId, papers, turned }

/-- The follower is attached before anything is asked of the catalog. -/
def Initial (s : Visit) : Prop :=
  ∃ (traffic : Traffic) (sessions : SessionStore Desk), traffic.Initial ∧
    Desk.Vacant sessions ∧
    s = { traffic, sessions := Desk.follow sessions, id := sessions.nextId }

theorem Initial.opened {s : Visit} (h : s.Initial) (k : Conduct) : Opened k s := by
  obtain ⟨traffic, sessions, ht, hv, rfl⟩ := h
  refine ⟨traffic, sessions, _, _, ⟨traffic, [], ht, .refl _⟩, hv, ?_, rfl⟩
  obtain ⟨_, _, _, _, _, _, rfl⟩ := ht
  exact fun e he => by cases he

inductive Step (k : Conduct) : Visit → Happening → Visit → Prop
  | traffic {s : Visit} {a : Event} {t : Traffic} (h : Companions.Step k s.traffic a t)
      (hs : Signed s.papers t)
      (hr : ∀ e, a = .land e → e.HasTicket → s.reload ≠ .underWay e.ticket) :
      Step k s (.traffic a) (s.after a t)
  | sign {s : Visit} {e : Errand} (he : e ∈ s.traffic.errands) (ht : e.HasTicket)
      (hn : (s.papers e.ticket).signed = none) : Step k s (.sign e) (s.sign e)
  | enter {s : Visit} {c : SessionStore.Calling Desk} {depth : Nat} {v : Session}
      {u : SessionStore Desk} (hc : c.Fair) (h : SessionStore.enter c depth v s.store = some u) :
      Step k s (.change (u.sent - s.sessions.sent)) (s.changed u)
  | leave {s : Visit} {c : SessionStore.Calling Desk} {depth : Nat} {u : SessionStore Desk}
      (hc : c.Fair) (h : SessionStore.leave c depth s.store = some u) :
      Step k s (.change (u.sent - s.sessions.sent)) (s.changed u)
  | subscribe {s : Visit} {l : Listener Desk} (hl : ∀ v, (l v).Apart s.id) :
      Step k s .listen { s with sessions := (s.sessions.subscribe l).2 }
  | unsubscribe {s : Visit} {n : Nat} (hn : n ≠ s.id) :
      Step k s .listen { s with sessions := s.sessions.unsubscribe n }
  | arrive {s : Visit} (h : s.follower.stage = .starting) : Step k s .arrive s.rest
  | wake {s : Visit} (h : s.follower.stage = .called) :
      Step k s .wake { s with follower := s.follower.run, reload := .due }
  | begin {s : Visit} (h : s.reload = .due) : Step k s .begin s.beginReload
  | finish {s : Visit} {e : Errand} {t : Traffic} (hr : s.reload = .underWay e.ticket)
      (ht : e.HasTicket) (h : Companions.Step k s.traffic (.land e) t) :
      Step k s (.finish e) (s.after (.land e) t).rest

inductive Run (k : Conduct) : Visit → List Happening → Visit → Prop
  | refl (s : Visit) : Run k s [] s
  | step {s t u : Visit} {a : Happening} {as : List Happening} (hr : Run k s as t)
      (h : Step k t a u) : Run k s (as ++ [a]) u

def Reachable (k : Conduct) (s : Visit) : Prop := ∃ s₀ as, Opened k s₀ ∧ Run k s₀ as s

variable {k : Conduct} {s t u : Visit} {a : Happening} {as bs : List Happening} {n : Nat}
  {w : SessionStore Desk}

theorem Run.trans (h : Run k s as t) (h' : Run k t bs u) : Run k s (as ++ bs) u := by
  induction h' with
  | refl => simpa using h
  | step _ hs ih =>
    rw [← List.append_assoc]
    exact .step ih hs

theorem Initial.reachable (h : s.Initial) (k : Conduct) : Reachable k s :=
  ⟨s, [], h.opened k, .refl s⟩

theorem Reachable.step (h : Reachable k s) (hs : Step k s a t) : Reachable k t := by
  obtain ⟨s₀, as, h₀, hr⟩ := h
  exact ⟨s₀, _, h₀, .step hr hs⟩

theorem Reachable.run (h : Reachable k s) (hr : Run k s as t) : Reachable k t := by
  obtain ⟨s₀, bs, h₀, hs⟩ := h
  exact ⟨s₀, _, h₀, hs.trans hr⟩

/-- What holds of a state and the happenings that led to it holds after a run if every step keeps
it. -/
theorem Run.invariant {P : List Happening → Visit → Prop} (h : Run k s as t)
    (hr : Reachable k s) (h₀ : P [] s)
    (hP : ∀ as u a v, Reachable k u → P as u → Step k u a v → P (as ++ [a]) v) : P as t := by
  induction h with
  | refl => exact h₀
  | step hrun hs ih => exact hP _ _ _ _ (hr.run hrun) ih hs

theorem Reachable.invariant {P : Visit → Prop} (h : Reachable k s) (h₀ : ∀ s, Opened k s → P s)
    (hP : ∀ s a t, Reachable k s → P s → Step k s a t → P t) : P s := by
  obtain ⟨s₀, as, hi, hr⟩ := h
  exact hr.invariant (P := fun _ s => P s) ⟨s₀, [], hi, .refl s₀⟩ (h₀ s₀ hi)
    fun _ u a v hu hp hs => hP u a v hu hp hs

theorem iterate_sessionChanged (n : Nat) (c : Catalog) (id : Nat) (f : Follower) :
    Desk.sessionChanged^[n] ⟨c, some (id, f)⟩ =
      ⟨Catalog.outdate^[n] c, some (id, Follower.call^[n] f)⟩ := by
  induction n generalizing c f with
  | zero => rfl
  | succ n ih =>
    rw [Function.iterate_succ_apply, Function.iterate_succ_apply, Function.iterate_succ_apply]
    exact ih c.outdate f.call

/-- What a change of the session that comes to an end has done: the follower was called, and an epoch
begun, as often as the session was replaced. -/
theorem changed_eq (h : Desk.Heard s.id n n s.store w) :
    s.changed w =
        { s with
          traffic := s.traffic.outdated n
          sessions := w
          follower := Follower.call^[n] s.follower } ∧
      w.sent - s.sessions.sent = n ∧ Desk.Attached s.id w ∧ (n = 0 → w.session = s.session) := by
  have hm : w.memory = ⟨Catalog.outdate^[n] s.traffic.catalog,
      some (s.id, Follower.call^[n] s.follower)⟩ :=
    h.memory.trans (iterate_sessionChanged n _ _ _)
  have hn : w.sent - s.sessions.sent = n := by
    rw [h.sent]
    exact Nat.add_sub_cancel_left ..
  refine ⟨?_, hn, h.attached, h.session⟩
  simp only [changed, hn, hm, Traffic.outdated, Option.map_some, Option.getD_some]

/-- Every step, with the changes of the session and the follower's reloads laid open. -/
inductive Move (k : Conduct) (s : Visit) : Happening → Visit → Prop
  | traffic {a : Event} {t : Traffic} (h : Companions.Step k s.traffic a t)
      (hs : Signed s.papers t)
      (hr : ∀ e, a = .land e → e.HasTicket → s.reload ≠ .underWay e.ticket) :
      Move k s (.traffic a) (s.after a t)
  | sign {e : Errand} (he : e ∈ s.traffic.errands) (ht : e.HasTicket)
      (hn : (s.papers e.ticket).signed = none) : Move k s (.sign e) (s.sign e)
  | change {w : SessionStore Desk} {n : Nat} (ha : Desk.Attached s.id w)
      (hv : n = 0 → w.session = s.session) :
      Move k s (.change n)
        { s with
          traffic := s.traffic.outdated n
          sessions := w
          follower := Follower.call^[n] s.follower }
  | listen {w : SessionStore Desk} (ha : Desk.Attached s.id w) (hv : w.session = s.session) :
      Move k s .listen { s with sessions := w }
  | arrive (h : s.follower.stage = .starting) : Move k s .arrive s.rest
  | wake (h : s.follower.stage = .called) :
      Move k s .wake { s with follower := s.follower.run, reload := .due }
  /-- The cache has the page of a reload. -/
  | hit {t : Traffic} (hr : s.reload = .due)
      (h : Companions.Step k s.traffic (.start .reload) t)
      (he : t.errands = s.traffic.errands) (ht : t.tickets = s.traffic.tickets + 1) :
      Move k s .begin (s.after (.start .reload) t).rest
  | ask {t : Traffic} {e : Errand} (hr : s.reload = .due)
      (h : Companions.Step k s.traffic (.start .reload) t)
      (he : t.errands = s.traffic.errands ++ [e]) (hw : e.HasTicket)
      (hn : e.ticket = s.traffic.tickets + 1) (ht : t.tickets = s.traffic.tickets + 1) :
      Move k s .begin
        { s.after (.start .reload) t with reload := .underWay (s.traffic.tickets + 1) }
  | finish {e : Errand} {t : Traffic} (hr : s.reload = .underWay e.ticket) (ht : e.HasTicket)
      (h : Companions.Step k s.traffic (.land e) t) :
      Move k s (.finish e) (s.after (.land e) t).rest

theorem start_reload (s : Traffic) :
    (s.start .reload).tickets = s.tickets + 1 ∧
      ((s.start .reload).errands = s.errands ∨
        ∃ e : Errand, (s.start .reload).errands = s.errands ++ [e] ∧ e.HasTicket ∧
          e.ticket = s.tickets + 1) := by
  have hs : s.start .reload = s.seek ⟨s.catalog.shown.descriptor, false⟩ := rfl
  obtain ⟨ht, _, he⟩ := Traffic.seek_sends (s := s) (q := ⟨s.catalog.shown.descriptor, false⟩)
    (Catalog.offers_of_load rfl)
  rw [hs]
  refine ⟨ht, he.imp_right ?_⟩
  rintro ⟨e, he, _, hw, hn, _⟩
  exact ⟨e, he, hw, hn⟩

theorem Step.move (h : Step k s a t) (ha : Desk.Attached s.id s.sessions) : Move k s a t := by
  have hstore : Desk.Attached s.id s.store := ⟨ha.heeds, ha.nodup, ha.lt, ha.minds⟩
  cases h with
  | traffic h hs hr => exact .traffic h hs hr
  | sign he ht hn => exact .sign he ht hn
  | enter hc h =>
    obtain ⟨n, hh⟩ := Desk.heard_enter hc hstore h
    obtain ⟨he, hn, ha, hv⟩ := changed_eq hh
    rw [he, hn]
    exact .change ha hv
  | leave hc h =>
    obtain ⟨n, hh⟩ := Desk.heard_leave hc hstore h
    obtain ⟨he, hn, ha, hv⟩ := changed_eq hh
    rw [he, hn]
    exact .change ha hv
  | subscribe hl => exact .listen (ha.subscribe hl) rfl
  | unsubscribe hn => exact .listen (ha.unsubscribe hn) rfl
  | arrive h => exact .arrive h
  | wake h => exact .wake h
  | begin h =>
    obtain ⟨ht, he⟩ := start_reload s.traffic
    unfold beginReload
    rcases he with he | ⟨e, he, hw, hn⟩
    · rw [if_pos (by rw [he])]
      exact .hit h (.start _ _) he ht
    · rw [if_neg (by simp [he]), ht]
      exact .ask h (.start _ _) he hw hn ht
  | finish hr ht h => exact .finish hr ht h

theorem run_outdated (k : Conduct) (s : Traffic) (n : Nat) :
    Companions.Run k s (List.replicate n .outdate) (s.outdated n) := by
  induction n generalizing s with
  | zero => exact .refl s
  | succ n ih =>
    have h := ih { s with catalog := s.catalog.outdate, epochs := s.epochs + 1 }
    have he : ({ s with catalog := s.catalog.outdate, epochs := s.epochs + 1 } : Traffic).outdated
        n = s.outdated (n + 1) := by
      simp only [Traffic.outdated, Function.iterate_succ_apply, Nat.add_assoc, Nat.add_comm 1]
    rw [he] at h
    exact .step (.outdate s) h

/-- The traffic of a visit takes steps of its own kind alone. -/
theorem Move.run (h : Move k s a t) : ∃ as, Companions.Run k s.traffic as t.traffic := by
  cases h with
  | traffic h => exact ⟨_, .step h (.refl _)⟩
  | change => exact ⟨_, run_outdated k s.traffic _⟩
  | hit _ h => exact ⟨_, .step h (.refl _)⟩
  | ask _ h => exact ⟨_, .step h (.refl _)⟩
  | finish _ _ h => exact ⟨_, .step h (.refl _)⟩
  | _ => exact ⟨_, .refl _⟩

/-- The stage of the follower's task and its reload agree. -/
structure Manned (s : Visit) : Prop where
  attached : Desk.Attached s.id s.sessions
  idle : s.reload = .idle ↔ s.follower.stage ≠ .reloading
  again : s.follower.stage = .resting → s.follower.again = false

theorem manned_opened (h : Opened k s) : Manned s := by
  obtain ⟨_, _, _, _, _, hv, _, rfl⟩ := h
  exact ⟨hv.attached_follow, by simp, fun _ => rfl⟩

theorem Manned.reloading (h : Manned s) (hr : s.reload ≠ .idle) :
    s.follower.stage = .reloading := by
  by_contra hne
  exact hr (h.idle.mpr hne)

theorem Manned.rest (h : Desk.Attached s.id s.sessions) : Manned s.rest := by
  refine ⟨h, ?_, ?_⟩ <;> simp only [Visit.rest, Follower.finish] <;> split <;> simp

/-- Calls alone do not bring the follower's task to or from a reload. -/
theorem iterate_call (f : Follower) (n : Nat) :
    ((Follower.call^[n] f).stage = .reloading ↔ f.stage = .reloading) ∧
      ((f.stage = .resting → f.again = false) →
        (Follower.call^[n] f).stage = .resting → (Follower.call^[n] f).again = false) := by
  induction n generalizing f with
  | zero => exact ⟨Iff.rfl, fun h => h⟩
  | succ n ih =>
    obtain ⟨h1, h2⟩ := ih f.call
    rw [Function.iterate_succ_apply]
    obtain ⟨stage, again⟩ := f
    refine ⟨h1.trans ?_, fun h => h2 ?_⟩
    · cases stage <;> simp [Follower.call]
    · cases stage <;> simp [Follower.call]

theorem manned_step (h : Manned s) (hs : Step k s a t) : Manned t := by
  cases hs.move h.attached with
  | traffic => exact { h with }
  | sign => exact { h with }
  | @change w n ha =>
    obtain ⟨h1, h2⟩ := iterate_call s.follower n
    exact ⟨ha, h.idle.trans (not_congr h1).symm, h2 h.again⟩
  | listen ha => exact { h with attached := ha }
  | arrive => exact .rest h.attached
  | wake => exact ⟨h.attached, by simp [Follower.run], by simp [Follower.run]⟩
  | hit => exact .rest h.attached
  | ask hr =>
    have hi := h.idle
    rw [hr] at hi
    exact ⟨h.attached, by simpa [after] using hi, h.again⟩
  | finish => exact .rest h.attached

theorem manned_reachable (h : Reachable k s) : Manned s :=
  h.invariant (fun _ => manned_opened) fun _ _ _ _ => manned_step

theorem traffic_reachable (h : Reachable k s) : Companions.Reachable k s.traffic := by
  refine h.invariant (P := fun s => Companions.Reachable k s.traffic) ?_ ?_
  · rintro _ ⟨_, _, _, _, ht, _, _, rfl⟩
    exact ht
  · intro s a t hr hs h
    obtain ⟨as, hrun⟩ := (h.move (manned_reachable hr).attached).run
    obtain ⟨s₀, bs, h₀, hb⟩ := hs
    exact ⟨s₀, _, h₀, hb.append hrun⟩

theorem ticketed_reachable (h : Reachable k s) : Ticketed s.traffic :=
  (traffic_reachable h).invariant (fun _ => ticketed_initial) fun _ _ _ => ticketed_step

/-- Every step of a run, laid open. -/
theorem Reachable.move (hr : Reachable k s) (h : Step k s a t) : Move k s a t :=
  h.move (manned_reachable hr).attached

theorem Run.traffic (h : Run k s as t) (hr : Reachable k s) :
    ∃ es, Companions.Run k s.traffic es t.traffic := by
  induction h with
  | refl => exact ⟨[], .refl _⟩
  | step hrun hs ih =>
    obtain ⟨es, he⟩ := ih
    obtain ⟨fs, hf⟩ := ((hr.run hrun).move hs).run
    exact ⟨es ++ fs, he.append hf⟩

/-! A visit to start from: before the follower, a listener came that changes the session itself. -/

/-- A listener that ends every visit to owner 7 at once. -/
def refuse : Listener Desk := fun v => if v.owner = some 7 then .leave .done else .done

theorem apart_refuse (id : Nat) (v : Session) : (refuse v).Apart id := by
  unfold refuse
  split
  · exact .leave .done
  · exact .done

def lobby : Visit :=
  let traffic := Traffic.fresh ∅
  let sessions : SessionStore Desk :=
    { listeners := [(0, refuse)], nextId := 1, memory := { catalog := traffic.catalog } }
  { traffic, sessions := Desk.follow sessions, id := sessions.nextId }

theorem initial_lobby : lobby.Initial := by
  refine ⟨_, _, Traffic.initial_fresh ∅, ⟨rfl, by decide, by decide, ?_⟩, rfl⟩
  intro l hl v
  rw [List.mem_singleton.mp hl]
  exact apart_refuse 1 v

/-- A call of the store, early in time, which tells the listeners in the order they came. -/
def inOrder : SessionStore.Calling Desk := { now := ⟨1, by decide, by decide⟩ }

theorem fair_inOrder : inOrder.Fair := fun _ => .refl _

end Visit
end Companions
