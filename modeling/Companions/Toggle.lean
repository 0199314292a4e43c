import Companions.Companion

/-! Favorite flags changed ahead of the backend's answer. -/
namespace Companions

/-- The companions on show with the counter of favorites beside them. The counter is the backend's
and may disagree with the flags. -/
structure Roster where
  companions : List Companion := []
  favorites : UInt64 := 0

namespace Roster

def find? (id : Int64) (r : Roster) : Option Companion := r.companions.find? fun c => c.id == id

/-- One more, up to the largest counter. -/
def increase (n : UInt64) : UInt64 := if n = 18446744073709551615 then n else n + 1

/-- One less, down to zero. -/
def decrease (n : UInt64) : UInt64 := if n = 0 then n else n - 1

def count (value : Bool) (n : UInt64) : UInt64 := if value then increase n else decrease n

/-- Give the first companion of that id the flag. -/
def setFirst (id : Int64) (value : Bool) : List Companion → List Companion
  | [] => []
  | c :: cs =>
    if c.id == id then { c with isFavorite := value } :: cs else c :: setFirst id value cs

/-- Give the first companion of that id the flag, counting the change if it is one. -/
def mark (id : Int64) (value : Bool) (r : Roster) : Roster :=
  match r.find? id with
  | none => r
  | some c =>
    if c.isFavorite == value then r
    else ⟨setFirst id value r.companions, count value r.favorites⟩

end Roster

inductive TogglePhase
  | applied
  | confirmed
  | rolledBack
  deriving DecidableEq

def TogglePhase.name : TogglePhase → String
  | applied => "AppliedOptimistically"
  | confirmed => "Confirmed"
  | rolledBack => "RolledBack"

/-- One favorite flag turned over, with the flag it had before. -/
structure Toggle where
  id : Int64
  former : Bool
  phase : TogglePhase
  deriving DecidableEq

namespace Toggle

/-- Turn the flag over; there is no toggle for a companion that is not on show. -/
def apply (id : Int64) (r : Roster) : Option (Toggle × Roster) :=
  (r.find? id).map fun c => (⟨id, c.isFavorite, .applied⟩, r.mark id !c.isFavorite)

/-- The flag shown while the backend has not answered. -/
def optimistic (t : Toggle) : Bool := !t.former

/-- Take the backend's answer, whatever was shown. -/
def confirm (t : Toggle) (answer : Bool) (r : Roster) : Toggle × Roster :=
  if t.phase = .applied then ({ t with phase := .confirmed }, r.mark t.id answer) else (t, r)

/-- Turn the flag back. -/
def rollBack (t : Toggle) (r : Roster) : Toggle × Roster :=
  if t.phase = .applied then ({ t with phase := .rolledBack }, r.mark t.id t.former) else (t, r)

/-- Show the optimistic flag on another list. -/
def overlay (t : Toggle) (r : Roster) : Roster := r.mark t.id t.optimistic

end Toggle
end Companions
