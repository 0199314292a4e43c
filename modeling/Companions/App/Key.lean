import Companions.App.Basic

/-! What the keys do. -/
namespace Companions

inductive Key
  | char (c : Char)
  | down
  | up
  | pageDown
  | pageUp
  | home
  | endKey
  | tab
  | enter
  | escape
  | backspace
  | other
  deriving DecidableEq

structure KeyPress where
  key : Key
  control : Bool := false

/-- The key of a name: a character is its own, and `ctrl-x` is `x` with the control key. -/
def KeyPress.ofName? : String → Option KeyPress
  | "down" => some { key := .down }
  | "up" => some { key := .up }
  | "pgdn" => some { key := .pageDown }
  | "pgup" => some { key := .pageUp }
  | "home" => some { key := .home }
  | "end" => some { key := .endKey }
  | "tab" => some { key := .tab }
  | "enter" => some { key := .enter }
  | "esc" => some { key := .escape }
  | "backspace" => some { key := .backspace }
  | "space" => some { key := .char ' ' }
  | "left" | "right" | "delete" | "insert" | "f1" => some { key := .other }
  | name =>
    match name.toList with
    | [c] => some { key := .char c }
    | ['c', 't', 'r', 'l', '-', c] => some { key := .char c, control := true }
    | _ => none

/-- What a key asks of the rest of the program. -/
inductive Intent
  | work (task : Task)
  | clearCache
  | leaveSession
  /-- Tell the backend that a companion was opened. -/
  | opened (id : Int64)

/-- The application after a key, and what it asks for. -/
structure Pressed (α : Type) where
  app : App α
  intents : List Intent := []
  quit : Bool := false

variable {α : Type} [Length α]

def Pressed.withStatus (now : Nanos) (text : String) (p : Pressed α) : Pressed α :=
  { p with app := p.app.setStatus now text }

namespace App

/-- The longest search text, in bytes. -/
def maxSearchLength : Nat := 256

/-- The rows of a page while the height of the list is not known. -/
def defaultPageRows : Nat := 10

/-- The companions on a page, and a default when not even one fits. -/
def pageRows (a : App α) : Int :=
  let g := a.surface.geometry
  let rows := (Length.floorIndex (g.container / Length.atLeastOne g.extent)).toNat
  if rows = 0 then defaultPageRows else min rows 9223372036854775807

def firstRow : Int := -4611686018427387904

def lastRow : Int := 4611686018427387903

def dispatch (now : Nanos) (e : SurfaceEvent α) (a : App α) : Pressed α :=
  let (surface, task) := a.surface.dispatch now e
  { app := { a with surface }, intents := (task.map Intent.work).toList }

/-- Go to a filter tab, unless it is the one on show. -/
def changeFilter (now : Nanos) (filter : Filter) (a : App α) : Pressed α :=
  if a.filter = filter ∧ a.snapshot.descriptor.group = none then { app := a }
  else a.dispatch now (.filter filter)

def submitSearch (now : Nanos) (a : App α) : Pressed α := a.dispatch now (.search a.searchInput)

/-- Keys while the search box is open. -/
def pressInSearch (now : Nanos) (key : Key) (a : App α) : Pressed α :=
  match key with
  | .escape => ({ a with searchMode := false, searchInput := "" } : App α).submitSearch now
  | .enter => { app := { a with searchMode := false } }
  | .backspace =>
    ({ a with searchInput := String.ofList a.searchInput.toList.dropLast } : App α).submitSearch now
  | .char c =>
    if maxSearchLength ≤ a.searchInput.utf8ByteSize then
      { app := a.setStatus now "Search query too long (max 256 chars)" }
    else ({ a with searchInput := a.searchInput.push c } : App α).submitSearch now
  | _ => { app := a }

/-- Turn over the favorite flag of the selected companion, unless that is under way. -/
def pressFavorite (now : Nanos) (catalog : Catalog) (a : App α) : Pressed α :=
  match a.selectedCompanion? with
  | none => { app := a }
  | some c =>
    if (catalog.pendingFor? c.id).isSome then
      { app := a.setStatus now "Favorite change still in progress" }
    else a.dispatch now (.toggle c.id)

/-- Go to the scene of the selected companion, or leave the scene. -/
def pressScene (now : Nanos) (a : App α) : Pressed α :=
  if a.snapshot.descriptor.group.isSome then a.dispatch now (.group none)
  else a.dispatch now (.group (a.selectedCompanion?.bind fun c => c.sceneId))

/-- Keys that stand for a letter, outside the search box. -/
def pressChar (now : Nanos) (catalog : Catalog) (c : Char) (a : App α) : Pressed α :=
  match c with
  | 'q' => { app := a, quit := true }
  | '?' => { app := { a with helpShown := true } }
  | 'j' => { app := a.moveSelection 1 }
  | 'k' => { app := a.moveSelection (-1) }
  | 'g' => { app := a.moveSelection firstRow }
  | 'G' => { app := a.moveSelection lastRow }
  | '1' => a.changeFilter now .all
  | '2' => a.changeFilter now .favorite
  | '3' => a.changeFilter now .recent
  | 's' =>
    let next := a.snapshot.descriptor.sort.next
    (a.dispatch now (.sort next)).withStatus now ("Sort: " ++ next.label)
  | 'c' => a.pressScene now
  | 'f' | ' ' => a.pressFavorite now catalog
  | '/' => { app := { a with searchMode := true, searchInput := a.snapshot.descriptor.search } }
  | 'r' => a.dispatch now .reload
  | 'R' =>
    let p := (a.dispatch now .reload).withStatus now "Cache cleared, reloading"
    { p with intents := .clearCache :: p.intents }
  | 'v' =>
    if a.session.active then { app := a, intents := [.leaveSession] }
    else { app := a.setStatus now "Not in a visiting session" }
  | _ => { app := a }

def pressOpen (now : Nanos) (a : App α) : Pressed α :=
  match a.selectedCompanion? with
  | none => { app := a }
  | some c => { app := a.setStatus now ("Opened " ++ c.name), intents := [.opened c.id] }

/-- Control and c always quits; any other key closes the help; then the search box comes first. -/
def press (now : Nanos) (catalog : Catalog) (k : KeyPress) (a : App α) : Pressed α :=
  if k.control ∧ k.key = .char 'c' then { app := a, quit := true }
  else if a.helpShown then { app := { a with helpShown := false } }
  else if a.searchMode then a.pressInSearch now k.key
  else
    match k.key with
    | .char c => a.pressChar now catalog c
    | .down => { app := a.moveSelection 1 }
    | .up => { app := a.moveSelection (-1) }
    | .pageDown => { app := a.moveSelection a.pageRows }
    | .pageUp => { app := a.moveSelection (-a.pageRows) }
    | .home => { app := a.moveSelection firstRow }
    | .endKey => { app := a.moveSelection lastRow }
    | .tab => a.changeFilter now a.filter.nextTab
    | .enter => a.pressOpen now
    | .escape | .backspace | .other => { app := a }

end App
end Companions
