import Companions.Catalog.Call
import Companions.Session.Store

/-! Keeping a catalog in step with the visiting session. Every change of the session drops the pages
held and calls for a reload; changes during a reload call for one more. -/
namespace Companions

/-- What the follower's task is doing. -/
inductive FollowerStage
  /-- Attached, but not yet running, so that it does not wait for a call. -/
  | starting
  | resting
  /-- Called, but not yet running. -/
  | called
  | reloading
  deriving DecidableEq

structure Follower where
  stage : FollowerStage := .starting
  /-- Whether a call came in while the task was not resting. -/
  again : Bool := false
  deriving DecidableEq

namespace Follower

def call (f : Follower) : Follower :=
  match f.stage with
  | .resting => { f with stage := .called }
  | .starting | .called | .reloading => { f with again := true }

/-- The task starts to reload. -/
def run (f : Follower) : Follower := { f with stage := .reloading }

/-- The task comes to wait for a call, at its start or after a reload: whether one has come in already,
so that a reload follows at once. -/
def finish (f : Follower) : Bool × Follower :=
  if f.again then (true, ⟨.reloading, false⟩) else (false, ⟨.resting, false⟩)

end Follower

/-- A catalog and the follower attached to it, if any, with its subscription. -/
structure Desk where
  catalog : Catalog
  follower : Option (Nat × Follower) := none

namespace Desk

/-- The session has changed. -/
def sessionChanged (d : Desk) : Desk :=
  { catalog := d.catalog.outdate, follower := d.follower.map fun (id, f) => (id, f.call) }

/-- What the follower does when it hears of a change. -/
def heed : Listener Desk := fun _ => .recall fun d => .remember d.sessionChanged .done

/-- Attach a new follower in place of one attached before. -/
def follow (s : SessionStore Desk) : SessionStore Desk :=
  let (id, s) := s.subscribe heed
  let s :=
    match s.memory.follower with
    | some (old, _) => s.unsubscribe old
    | none => s
  { s with memory := { s.memory with follower := some (id, {}) } }

/-- Detach the follower; its task stops where it is. -/
def unfollow (s : SessionStore Desk) : SessionStore Desk :=
  match s.memory.follower with
  | some (id, _) =>
    let s := s.unsubscribe id
    { s with memory := { s.memory with follower := none } }
  | none => s

end Desk
end Companions
