import Companions.App.Key
import Companions.Catalog.Follower
import Companions.Screen.Frame

/-! Playing the whole program against a scripted backend, on a clock moved by hand. Whatever runs in
the background waits in a queue and takes its turns in order; an answer of the backend may be held
back at a gate until the gate is opened. -/
namespace Companions

/-- A scripted answer, held back at a gate if it names one. -/
structure Line (β : Type) where
  gate : Option String := none
  reply : Except BackendError β

/-- The answers still to be given, for each kind of call. -/
structure Script where
  queries : List (Line Page) := []
  searches : List (Line Page) := []
  toggles : List (Line (Option Favorite)) := []
  orders : List (Line Unit) := []
  receipts : List (Line Unit) := []

namespace Script

/-- The answer to a call for which none is scripted. -/
def silence {β : Type} : Line β := { reply := .error (.status 418 "no reply") }

/-- The next answer to a call. -/
def next (s : Script) : (w : Await) → Line w.Answer × Script
  | .page _ _ => (s.queries.head?.getD silence, { s with queries := s.queries.tail })
  | .found _ => (s.searches.head?.getD silence, { s with searches := s.searches.tail })
  | .favorite _ => (s.toggles.head?.getD silence, { s with toggles := s.toggles.tail })
  | .order => (s.orders.head?.getD silence, { s with orders := s.orders.tail })
  | .receipt => (s.receipts.head?.getD silence, { s with receipts := s.receipts.tail })

end Script

/-- On whose behalf an operation runs. -/
inductive Caller
  /-- A cue, by its number. -/
  | cue (n : Nat)
  | surface
  | follower (id : Nat)
  /-- The application, which opened a companion. -/
  | opening (id : Int64)
  deriving DecidableEq

/-- An operation that waits at a gate. -/
structure Job where
  caller : Caller
  gate : String
  await : Await
  reply : await.Reply

/-- What can be done next in the background. -/
inductive Turn
  | start (caller : Caller) (op : Operation)
  | settle (ticket : UInt64)
  | resume (job : Job)
  /-- A follower comes to wait for its first call. -/
  | rest (follower : Nat)
  | reload (follower : Nat)

/-- What an observer is told at once about a cue. -/
inductive Remark
  | none
  | hit (page : Option Page)
  | companion (found : Option Companion)
  | pending (isPending : Bool)
  | started (isStarted : Bool)
  /-- The pages held before anything in the background runs. -/
  | held (count : Nat)
  | screen (canvas : Canvas)

structure Rehearsal (α : Type) where
  now : Nanos := 0
  /-- The reading of the calendar clock, which stands still. -/
  date : Moment
  sessions : SessionStore Desk
  app : App α
  /-- Whether the application takes part. -/
  attended : Bool := false
  script : Script := {}
  /-- Gates opened before anything waited there. -/
  openings : List String := []
  /-- In the order in which they came to their gates. -/
  jobs : List Job := []
  queue : List Turn := []
  events : List AppEvent := []
  /-- The snapshots and the sessions that the application has taken. -/
  snapshotsTaken : Nat := 0
  sessionsTaken : Nat := 0
  quit : Bool := false
  /-- The calls made and the cues ended, oldest first. -/
  calls : List Request := []
  ended : List (Nat × Outcome) := []

namespace Rehearsal

variable {α : Type} [Length α]

def catalog (r : Rehearsal α) : Catalog := r.sessions.memory.catalog

def withCatalog (c : Catalog) (r : Rehearsal α) : Rehearsal α :=
  { r with sessions := { r.sessions with memory := { r.sessions.memory with catalog := c } } }

def follower? (r : Rehearsal α) : Option (Nat × Follower) := r.sessions.memory.follower

def withFollower (f : Option (Nat × Follower)) (r : Rehearsal α) : Rehearsal α :=
  { r with sessions := { r.sessions with memory := { r.sessions.memory with follower := f } } }

def enqueue (t : Turn) (r : Rehearsal α) : Rehearsal α := { r with queue := r.queue ++ [t] }

/-- A follower comes to wait. If it was called meanwhile, it reloads before anything else. -/
def rest (id : Nat) (r : Rehearsal α) : Rehearsal α :=
  match r.follower? with
  | some (current, f) =>
    if current = id then
      let (again, f) := f.finish
      let r := r.withFollower (some (id, f))
      if again then { r with queue := .start (.follower id) .reload :: r.queue } else r
    else r
  | none => r

/-- An operation has ended. -/
def finish (caller : Caller) (out : Outcome) (r : Rehearsal α) : Rehearsal α :=
  match caller with
  | .cue n => { r with ended := r.ended ++ [(n, out)] }
  | .surface => r
  | .follower id => r.rest id
  | .opening id =>
    match out with
    | .access result => { r with events := r.events ++ [.accessRecorded id result] }
    | _ => r

/-- Follow an operation until it ends or has to wait; it makes at most `calls` calls more. -/
def pursue (caller : Caller) : Nat → Progress → Rehearsal α → Rehearsal α
  | _, .ends out, r => r.finish caller out
  | 0, .asks _ _, r => r
  | calls + 1, .asks request w, r =>
    let (line, script) := r.script.next w
    let r := { r with script, calls := r.calls ++ [request] }
    let answer (r : Rehearsal α) : Rehearsal α :=
      let (c, p) := r.catalog.resume r.now w line.reply
      pursue caller calls p (r.withCatalog c)
    match line.gate with
    | none => answer r
    | some gate =>
      if gate ∈ r.openings then answer { r with openings := r.openings.erase gate }
      else { r with jobs := r.jobs ++ [⟨caller, gate, w, line.reply⟩] }

/-- The most calls that one operation makes: a new order, and the list in that order. -/
def callsPerOperation : Nat := 2

def launch (caller : Caller) (op : Operation) (r : Rehearsal α) : Rehearsal α :=
  let (c, p) := r.catalog.start r.now op
  pursue caller callsPerOperation p (r.withCatalog c)

/-- Whether an operation may still run: that of a follower stops when it is detached. -/
def isAlive (caller : Caller) (r : Rehearsal α) : Bool :=
  match caller with
  | .follower id => (r.follower?.map Prod.fst) == some id
  | _ => true

/-- Decide a search text whose window has passed; any other waits on. -/
def settle (ticket : UInt64) (r : Rehearsal α) : Rehearsal α :=
  let d := r.app.surface.debouncer
  if ticket ∈ d.due r.now then
    let (text, d) := d.decide ticket
    let r := { r with app := { r.app with surface := { r.app.surface with debouncer := d } } }
    match text with
    | some text => r.launch .surface (.search text)
    | none => r
  else r

def takeTurn (t : Turn) (r : Rehearsal α) : Rehearsal α :=
  match t with
  | .start caller op => if r.isAlive caller then r.launch caller op else r
  | .settle ticket => r.settle ticket
  | .resume job =>
    if r.isAlive job.caller then
      let (c, p) := r.catalog.resume r.now job.await job.reply
      pursue job.caller callsPerOperation p (r.withCatalog c)
    else r
  | .rest id => r.rest id
  | .reload id =>
    match r.follower? with
    | some (current, f) =>
      if current = id then (r.withFollower (some (id, f.run))).launch (.follower id) .reload else r
    | none => r

/-- Take turns until nothing is left to do, or `turns` have been taken. -/
def run : Nat → Rehearsal α → Rehearsal α
  | 0, r => r
  | turns + 1, r =>
    match r.queue with
    | [] => r
    | t :: ts => run turns (takeTurn t { r with queue := ts })

/-- Take all turns. A turn adds none, except that a follower called in the meantime goes on once. -/
def runAll (r : Rehearsal α) : Rehearsal α := r.run (r.queue.length + 1)

/-- How listeners are called. -/
def calling (r : Rehearsal α) : SessionStore.Calling Desk := { now := r.date }

/-- How deep changes of the session made by listeners may be nested; the follower makes none. -/
def listenerDepth : Nat := 2

/-- Change the session, and let the follower run later if it was called. -/
def changeSession (change : SessionStore Desk → Option (SessionStore Desk)) (r : Rehearsal α) :
    Rehearsal α :=
  match change r.sessions with
  | none => r
  | some sessions =>
    let before := (r.follower?.map fun f => f.2.stage)
    let r := { r with sessions }
    match r.follower? with
    | some (id, f) =>
      if f.stage = .called ∧ before ≠ some .called then r.enqueue (.reload id) else r
    | none => r

def enter (v : Session) (r : Rehearsal α) : Rehearsal α :=
  r.changeSession (SessionStore.enter r.calling listenerDepth v)

def leave (r : Rehearsal α) : Rehearsal α :=
  r.changeSession (SessionStore.leave r.calling listenerDepth)

/-- Forget what a detached follower was waiting for. -/
def dropDead (r : Rehearsal α) : Rehearsal α :=
  { r with jobs := r.jobs.filter fun j => r.isAlive j.caller }

/-- Attach a follower, which runs later until it waits for its first call. -/
def follow (r : Rehearsal α) : Rehearsal α :=
  ({ r with sessions := Desk.follow r.sessions } : Rehearsal α).dropDead.enqueue
    (.rest r.sessions.nextId)

def unfollow (r : Rehearsal α) : Rehearsal α :=
  ({ r with sessions := Desk.unfollow r.sessions } : Rehearsal α).dropDead

/-- Open a gate once: for the operation that has waited there longest, or for one still to come. -/
def release (gate : String) (r : Rehearsal α) : Rehearsal α :=
  match r.jobs.find? fun j => j.gate == gate with
  | none => { r with openings := gate :: r.openings }
  | some job => { r with jobs := r.jobs.eraseP fun j => j.gate == gate }.enqueue (.resume job)

def startTask (task : Task) (r : Rehearsal α) : Rehearsal α :=
  match task with
  | .operation op => r.enqueue (.start .surface op)
  | .settle ticket => r.enqueue (.settle ticket)

def dispatch (e : SurfaceEvent α) (r : Rehearsal α) : Rehearsal α × Bool :=
  let (surface, task) := r.app.surface.dispatch r.now e
  let r := { r with app := { r.app with surface } }
  match task with
  | some task => (r.startTask task, true)
  | none => (r, false)

def carryOut (i : Intent) (r : Rehearsal α) : Rehearsal α :=
  match i with
  | .work task => r.startTask task
  | .clearCache => r.withCatalog { r.catalog with cache := r.catalog.cache.clear }
  | .leaveSession => r.leave
  | .opened id => r.enqueue (.start (.opening id) (.access { companionId := id }))

def press (k : KeyPress) (r : Rehearsal α) : Rehearsal α :=
  let p := r.app.press r.now r.catalog k
  p.intents.foldl (fun r i => r.carryOut i) { r with app := p.app, quit := r.quit || p.quit }

/-- Move the clock; the search texts whose windows pass are decided in order. -/
def advance (span : Nanos) (r : Rehearsal α) : Rehearsal α :=
  let r := { r with now := r.now + span }
  (r.app.surface.debouncer.due r.now).foldl (fun r ticket => r.enqueue (.settle ticket)) r

/-- What the application does between two waits: events first, then the latest snapshot, then the
latest session, if they are new. -/
def attend (r : Rehearsal α) : Rehearsal α :=
  if r.attended then
    let app := r.events.foldl (fun a e => a.handleEvent r.now e) r.app
    let published := r.catalog.publications
    let app := if published = r.snapshotsTaken then app else app.applySnapshot r.catalog.published
    let sent := r.sessions.sent
    let app := if sent = r.sessionsTaken then app else app.applySession r.now r.sessions.watched
    { r with app, events := [], snapshotsTaken := published, sessionsTaken := sent }
  else r

end Rehearsal

/-- What happens from outside, one thing after the other. -/
inductive Cue (α : Type)
  | nothing
  | answer (script : Script)
  | release (gate : String)
  | operation (op : Operation)
  | cacheGet (d : Descriptor)
  | cacheClear
  | invalidate
  | lookUp (id : Int64)
  | isPending (id : Int64)
  | advance (span : Nanos)
  | follow
  | unfollow
  | enter (session : Session)
  | leave
  | dispatch (event : SurfaceEvent α)
  | reveal (index : UInt64)
  | resize (container : α)
  | layout (layout : Layout α)
  | keys (presses : List KeyPress)
  | move (delta : Int)
  | clearStatus
  | panicked (task : String)
  | render (width height : Nat)

namespace Script

def append (s t : Script) : Script :=
  { queries := s.queries ++ t.queries
    searches := s.searches ++ t.searches
    toggles := s.toggles ++ t.toggles
    orders := s.orders ++ t.orders
    receipts := s.receipts ++ t.receipts }

end Script

namespace Rehearsal

variable {α : Type} [Length α]

/-- The immediate effect of the cue with number `n`. -/
def take (n : Nat) (cue : Cue α) (r : Rehearsal α) : Rehearsal α × Remark :=
  match cue with
  | .nothing => (r, .none)
  | .answer script => ({ r with script := r.script.append script }, .none)
  | .release gate => (r.release gate, .none)
  | .operation op => (r.enqueue (.start (.cue n) op), .none)
  | .cacheGet d =>
    let (page, cache) := r.catalog.cache.get r.now d
    (r.withCatalog { r.catalog with cache }, .hit page)
  | .cacheClear => (r.withCatalog { r.catalog with cache := r.catalog.cache.clear }, .none)
  | .invalidate => (r.withCatalog r.catalog.outdate, .none)
  | .lookUp id => (r, .companion (r.catalog.shown.roster.find? id))
  | .isPending id => (r, .pending (r.catalog.pendingFor? id).isSome)
  | .advance span => (r.advance span, .none)
  | .follow => (r.follow, .none)
  | .unfollow => (r.unfollow, .none)
  | .enter session =>
    let r := r.enter session
    (r, .held r.catalog.cache.size)
  | .leave =>
    let r := r.leave
    (r, .held r.catalog.cache.size)
  | .dispatch event =>
    let (r, isStarted) := r.dispatch event
    (r, .started isStarted)
  | .reveal index => ({ r with app := { r.app with surface := r.app.surface.reveal index } }, .none)
  | .resize container =>
    ({ r with app := { r.app with surface := r.app.surface.withContainer container } }, .none)
  | .layout layout =>
    ({ r with app := { r.app with surface := { r.app.surface with layout } } }, .none)
  | .keys presses => (presses.foldl (fun r k => r.press k) r, .none)
  | .move delta => ({ r with app := r.app.moveSelection delta }, .none)
  | .clearStatus => ({ r with app := { r.app with status := none } }, .none)
  | .panicked task => ({ r with events := r.events ++ [.taskPanicked task] }, .none)
  | .render width height =>
    let (app, canvas) := Screen.draw r.date width height r.app
    ({ r with app }, .screen canvas)

/-- Play a cue and whatever follows from it. -/
def play (n : Nat) (cue : Cue α) (r : Rehearsal α) : Rehearsal α × Remark :=
  let r :=
    { r with calls := [], ended := [], app := { r.app with needsRedraw := false } }
  let (r, remark) := r.take n cue
  (r.runAll.attend, remark)

end Rehearsal
end Companions
