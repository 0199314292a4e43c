import Companions.Screen.CompanionList
import Companions.Screen.Help

/-! One frame: the filter tabs, the list and the status bar. -/
namespace Companions.Screen

variable {α : Type} [Length α]

def minWidth : Nat := 40

def minHeight : Nat := 8

def tab (current kind : Filter) (text : String) : Span :=
  let chosen : Pen := { foreground := some .black, background := some .cyan, bold := true }
  ⟨text, if current = kind then chosen else {}⟩

/-- The name of a scene as far as a companion on show knows it. -/
def sceneLabel (s : Snapshot) (id : Int64) : String :=
  match (s.companions.find? fun c => c.sceneId == some id).bind fun c => c.sceneName with
  | some name => name
  | none => "#" ++ Number.showInt id.toInt

/-- The filter tabs with their counters, the scene, and the order. -/
def tabs (s : Snapshot) : List Span :=
  let d := s.descriptor
  let counted (label : String) (n : UInt64) : String :=
    " " ++ label ++ " (" ++ toString n.toNat ++ ") "
  [tab d.filter .all " All ",
    tab d.filter .favorite (counted "Favorite" s.roster.favorites),
    tab d.filter .recent (counted "Recent" s.recents)] ++
  (d.group.map fun id => tab d.filter .scene (" Scene: " ++ sceneLabel s id ++ " ")).toList ++
  [⟨"  sort: " ++ d.sort.label, { foreground := some .darkGray }⟩]

def keyHints : String :=
  "[1-3/Tab]filter [s]ort [/]search [f]avorite [c]scene [r]eload [?]help [q]uit"

/-- What the status bar says: a message, else an error, else what is going on, else the keys. -/
def statusText (a : App α) : String :=
  match a.status, a.snapshot.error with
  | some notice, _ => notice.text
  | none, some f =>
    match f.detail with
    | some detail => f.shown ++ " (" ++ detail ++ ")"
    | none => f.shown
  | none, none =>
    if a.snapshot.isLoading then if a.snapshot.searching then "Searching..." else "Loading..."
    else if a.searchMode then "Type to search | ESC clear | ENTER keep results"
    else keyHints

/-- Whose space is visited; nothing when there is no visit. -/
def visitText (s : Session) : String :=
  if s.active then
    match s.owner with
    | some id => "  | visiting #" ++ Number.showInt id.toInt ++ " [v]leave"
    | none => "  | visiting [v]leave"
  else ""

def statusPen (a : App α) : Pen :=
  { foreground := some .white
    background := some (if a.status.isNone ∧ a.snapshot.error.isSome then .red else .darkGray) }

/-- The first line of a text, without the carriage return at its end. -/
def firstLine (text : String) : String :=
  let line := text.toList.takeWhile fun c => c ≠ '\n'
  let ended := line.length < text.length
  String.ofList (if ended ∧ line.getLast? = some '\r' then line.dropLast else line)

def drawStatus (area : Area) (a : App α) (c : Canvas) : Canvas :=
  let line := firstLine (statusText a ++ visitText a.session)
  (c.paint area (statusPen a)).drawRow area false [⟨line, {}⟩]

def tooSmall (width height : Nat) : List (List Span) :=
  let size (w h : Nat) : String := toString w ++ "x" ++ toString h
  [[⟨"Terminal too small", {}⟩], [], [⟨"Minimum: " ++ size minWidth minHeight, {}⟩],
    [⟨"Current: " ++ size width height, {}⟩]]

/-- Draw a screen of that size. The list takes note of its height. -/
def draw (now : Moment) (width height : Nat) (a : App α) : App α × Canvas :=
  let c := Canvas.blank width height
  let all : Area := ⟨0, 0, width, height⟩
  if width < minWidth ∨ height < minHeight then
    if height < 3 ∨ width < 20 then (a, c.drawRow (all.row 0) false [⟨"Too small", {}⟩])
    else (a, c.drawRows all true (tooSmall width height))
  else
    let c := c.drawRow (all.row 0) false (tabs a.snapshot)
    let (a, c) := drawList now ⟨0, 1, width, height - 2⟩ a c
    let c := drawStatus (all.row (height - 1)) a c
    (a, if a.helpShown then drawHelp width height c else c)

end Companions.Screen
