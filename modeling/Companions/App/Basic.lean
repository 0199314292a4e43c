import Companions.Session.Basic
import Companions.Surface

/-! The state of the terminal application: a copy of the latest snapshot, the selection, the search
box and a message for the user. -/
namespace Companions

structure Notice where
  text : String
  since : Nanos

structure App (α : Type) where
  surface : Surface α
  snapshot : Snapshot
  session : Session
  /-- The index of the selected companion. -/
  selected : Nat := 0
  searchMode : Bool := false
  searchInput : String := ""
  status : Option Notice := none
  helpShown : Bool := false
  needsRedraw : Bool := true

/-- What background tasks report to the application. -/
inductive AppEvent
  | accessRecorded (id : Int64) (result : Except Failure Unit)
  | taskPanicked (task : String)

namespace App

variable {α : Type} [Length α]

/-- How long a message stays. -/
def statusTtl : Nanos := Nanos.ofSeconds 3

def selectedCompanion? (a : App α) : Option Companion := a.snapshot.companions[a.selected]?

def filter (a : App α) : Filter := a.snapshot.descriptor.filter

def setStatus (now : Nanos) (text : String) (a : App α) : App α :=
  { a with status := some ⟨text, now⟩, needsRedraw := true }

/-- Drop a message that has been shown long enough. -/
def clearExpired (now : Nanos) (a : App α) : Bool × App α :=
  match a.status with
  | some notice =>
    if statusTtl ≤ now - notice.since then (true, { a with status := none }) else (false, a)
  | none => (false, a)

/-- Put a selection beyond the end on the last companion. -/
def clampSelection (a : App α) : App α :=
  let n := a.snapshot.companions.length
  { a with selected := min a.selected (n - 1) }

/-- Take a new snapshot. A list that was replaced starts at its top. -/
def applySnapshot (snapshot : Snapshot) (a : App α) : App α :=
  let a :=
    if snapshot.generation = a.snapshot.generation then a
    else { a with selected := 0, surface := a.surface.toTop }
  { ({ a with snapshot } : App α).clampSelection with needsRedraw := true }

/-- Take a new session, and say so if it differs. -/
def applySession (now : Nanos) (session : Session) (a : App α) : App α :=
  if session = a.session then a
  else
    ({ a with session } : App α).setStatus now
      (if session.active then "Entered visiting session" else "Left visiting session")

def handleEvent (now : Nanos) (e : AppEvent) (a : App α) : App α :=
  let a := { a with needsRedraw := true }
  match e with
  | .accessRecorded _ (.ok _) => a
  | .accessRecorded _ (.error f) => a.setStatus now ("Could not record access: " ++ f.shown)
  | .taskPanicked task => a.setStatus now ("Internal error in " ++ task)

/-- Move the selection by some rows, as far as the list goes, and show it. -/
def moveSelection (delta : Int) (a : App α) : App α :=
  let n := a.snapshot.companions.length
  if n = 0 then a
  else
    let selected := (max 0 (min ((a.selected : Int) + delta) ((n : Int) - 1))).toNat
    { a with selected, surface := a.surface.reveal (UInt64.ofNat selected) }

end App
end Companions
