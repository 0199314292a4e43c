import Companions.Session.Basic

/-! The one place where the visiting session is kept. Every change replaces the value whole and then
calls each listener once with the new value. Listeners run after the value is in place and may use
the store themselves, also to change the session again. -/
namespace Companions

/-- What a listener does when it is called: a sequence of uses of the store, of which each may
depend on what the earlier ones gave. Listeners share a memory of type `σ`. -/
inductive Reaction (σ : Type)
  | done
  | enter (session : Session) (next : Reaction σ)
  | leave (next : Reaction σ)
  | subscribe (listener : Session → Reaction σ) (next : Nat → Reaction σ)
  | unsubscribe (id : Nat) (next : Reaction σ)
  | read (next : Session → Reaction σ)
  | recall (next : σ → Reaction σ)
  | remember (memory : σ) (next : Reaction σ)

abbrev Listener (σ : Type) := Session → Reaction σ

structure SessionStore (σ : Type) where
  session : Session := {}
  /-- The value of the channel that tasks watch. -/
  watched : Session := {}
  /-- How often a value was sent on that channel. -/
  sent : Nat := 0
  /-- Subscriptions and their listeners. -/
  listeners : List (Nat × Listener σ) := []
  nextId : Nat := 0
  memory : σ

namespace SessionStore

variable {σ : Type}

def replace (v : Session) (s : SessionStore σ) : SessionStore σ :=
  { s with session := v, watched := v, sent := s.sent + 1 }

/-- Register a listener; the number is its subscription. -/
def subscribe (listener : Listener σ) (s : SessionStore σ) : Nat × SessionStore σ :=
  (s.nextId, { s with listeners := s.listeners ++ [(s.nextId, listener)], nextId := s.nextId + 1 })

def unsubscribe (id : Nat) (s : SessionStore σ) : SessionStore σ :=
  { s with listeners := s.listeners.filter fun l => l.1 != id }

/-- How the store calls listeners. -/
structure Calling (σ : Type) where
  now : Moment
  /-- The order in which the listeners of one change are called, which is not specified. -/
  arrange : List (Nat × Listener σ) → List (Nat × Listener σ) := id

abbrev Notify (σ : Type) := Session → SessionStore σ → Option (SessionStore σ)

def enterWith (notify : Notify σ) (now : Moment) (v : Session) (s : SessionStore σ) :
    Option (SessionStore σ) :=
  let v := v.opened now
  notify v (s.replace v)

def leaveWith (notify : Notify σ) (s : SessionStore σ) : Option (SessionStore σ) :=
  if s.session.active then notify .inactive (s.replace .inactive) else some s

/-- Carry out what a listener does. -/
def perform (notify : Notify σ) (now : Moment) :
    Reaction σ → SessionStore σ → Option (SessionStore σ)
  | .done, s => some s
  | .enter v next, s => (s.enterWith notify now v).bind (perform notify now next)
  | .leave next, s => (s.leaveWith notify).bind (perform notify now next)
  | .subscribe listener next, s =>
    let (id, s) := s.subscribe listener
    perform notify now (next id) s
  | .unsubscribe id next, s => perform notify now next (s.unsubscribe id)
  | .read next, s => perform notify now (next s.session) s
  | .recall next, s => perform notify now (next s.memory) s
  | .remember m next, s => perform notify now next { s with memory := m }

/-- Call the listeners registered now with `v`. Changes made by listeners call listeners in turn, at
most `depth` deep; `none` if that is not enough. -/
def notify (c : Calling σ) : Nat → Notify σ
  | 0, _, _ => none
  | depth + 1, v, s =>
    (c.arrange s.listeners).foldlM (fun s l => perform (notify c depth) c.now (l.2 v) s) s

/-- Start a visit, replacing one under way. -/
def enter (c : Calling σ) (depth : Nat) (v : Session) (s : SessionStore σ) :
    Option (SessionStore σ) :=
  s.enterWith (notify c depth) c.now v

/-- End the visit; nothing happens when there is none. -/
def leave (c : Calling σ) (depth : Nat) (s : SessionStore σ) : Option (SessionStore σ) :=
  s.leaveWith (notify c depth)

end SessionStore
end Companions
