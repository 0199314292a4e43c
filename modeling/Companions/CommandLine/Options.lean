import Companions.Session.Spec
import Companions.Text.Similarity

/-! The options of the command line. -/
namespace Companions

inductive Flag
  | config
  | setToken
  | logout
  | visit
  | help
  deriving DecidableEq

namespace Flag

def all : List Flag := [config, setToken, logout, visit, help]

def name : Flag → String
  | config => "config"
  | setToken => "set-token"
  | logout => "logout"
  | visit => "visit"
  | help => "help"

def ofName? (name : String) : Option Flag := all.find? fun f => f.name == name

def takesValue : Flag → Bool
  | config | visit => true
  | setToken | logout | help => false

/-- The flag as messages show it, with what its value stands for. -/
def shown (f : Flag) : String :=
  "--" ++ f.name ++
    match f with
    | config => " <FILE>"
    | visit => " <SPEC>"
    | setToken | logout | help => ""

/-- The flag that is most like a name; of two the later one, and none that is too far off. -/
def similar? (name : String) : Option Flag :=
  (all.foldl (fun (best : Option (Flag × Float)) f =>
    let s := Text.similarity name f.name
    if s > 0.7 ∧ ((best.map fun b => decide (b.2 ≤ s)).getD true) then some (f, s) else best)
    none).map Prod.fst

end Flag

/-- Why a command line is not understood; `given` are the flags before the fault, in their order. -/
inductive UsageError
  | unexpected (argument : String) (similar : Option Flag) (given : List Flag)
  | missingValue (flag : Flag)
  | repeated (flag : Flag)
  | unexpectedValue (flag : Flag) (value : String) (given : List Flag)
  | badVisit (text : String) (error : VisitError)
  deriving DecidableEq

namespace UsageError

def message : UsageError → String
  | unexpected argument _ _ => "unexpected argument '" ++ argument ++ "' found"
  | missingValue flag => "a value is required for '" ++ flag.shown ++ "' but none was supplied"
  | repeated flag => "the argument '" ++ flag.shown ++ "' cannot be used multiple times"
  | unexpectedValue flag value _ =>
    "unexpected value '" ++ value ++ "' for '" ++ flag.shown ++ "' found; no more were expected"
  | badVisit text e =>
    "invalid value '" ++ text ++ "' for '" ++ Flag.visit.shown ++ "': " ++ e.message

def tip : UsageError → String
  | unexpected _ (some flag) _ => "\n\n  tip: a similar argument exists: '--" ++ flag.name ++ "'"
  | _ => ""

def usage (given : List Flag) : String :=
  "Usage: quickconnect " ++
    if given.isEmpty then "[OPTIONS]" else String.intercalate " " (given.map Flag.shown)

/-- How the program is used, where that helps. -/
def reminder : UsageError → String
  | unexpected _ similar given =>
    let more := similar.toList.filter fun f => !given.contains f
    "\n\n" ++ usage (given ++ more)
  | unexpectedValue flag _ given =>
    "\n\n" ++ usage (if given.contains flag then given else given ++ [flag])
  | repeated _ => "\n\n" ++ usage []
  | missingValue _ | badVisit _ _ => ""

/-- Control characters are not shown, line ends and tabs apart. -/
def isShown (c : Char) : Bool :=
  (0x20 ≤ c.toNat && c.toNat != 0x7F) || c = '\n' || c = '\t' || c = '\r' || c = '\x0c'

def text (e : UsageError) : String :=
  let text := "error: " ++ e.message ++ e.tip ++ e.reminder ++
    "\n\nFor more information, try '--help'.\n"
  String.ofList (text.toList.filter isShown)

end UsageError

structure Options where
  /-- Where the settings are, if not at the usual place. -/
  config : Option String := none
  setToken : Bool := false
  logout : Bool := false
  visit : Option Session := none

namespace Options

def helpText : String :=
  "Browse, search and favorite your companions from the terminal\n\n" ++
  UsageError.usage [] ++ "\n\nOptions:\n" ++
  "      --config <FILE>  Config file (default: ~/.config/quickconnect/config.toml)\n" ++
  "      --set-token      Read a bearer token from stdin and store it\n" ++
  "      --logout         Forget the stored bearer token\n" ++
  "      --visit <SPEC>   Browse another user's shared space: OWNER:VISITOR[:SHARE_ID]\n" ++
  "  -h, --help           Print help\n"

/-- Why reading ends before the last argument. -/
inductive Stop
  | help
  | error (e : UsageError)

/-- How far the arguments are read. -/
structure Reading where
  options : Options := {}
  /-- The flags given, in their order. -/
  given : List Flag := []
  /-- The last flag that takes a value, and its value once that is there. It counts as given when
  the next flag comes. -/
  waiting : Option (Flag × Option String) := none
  /-- Whether flags are no longer expected. -/
  plain : Bool := false

namespace Reading

variable (now : Moment)

/-- Take the value of a flag. -/
def accept (flag : Flag) (value : String) (r : Reading) : Reading × Option UsageError :=
  if r.given.contains flag then
    ({ r with given := r.given.filter fun f => f != flag }, some (.repeated flag))
  else
    let r := { r with given := r.given ++ [flag] }
    match flag with
    | .visit =>
      match Session.ofSpec now value with
      | .ok s => ({ r with options := { r.options with visit := some s } }, none)
      | .error e => (r, some (.badVisit value e))
    | _ =>
      if value = "" then (r, some (.missingValue flag))
      else ({ r with options := { r.options with config := some value } }, none)

/-- Deal with the flag that is waiting. -/
def settle (r : Reading) : Reading × Option UsageError :=
  let done := { r with waiting := none }
  match r.waiting with
  | none => (done, none)
  | some (flag, none) => (done, some (.missingValue flag))
  | some (flag, some value) => done.accept now flag value

def settled (r : Reading) : Except Stop Reading :=
  match r.settle now with
  | (r, none) => .ok r
  | (_, some e) => .error (.error e)

/-- A flag without a value. -/
def switch (flag : Flag) (r : Reading) : Except Stop Reading := do
  let r ← r.settled now
  if flag = .help then throw .help
  if r.given.contains flag then throw (.error (.repeated flag))
  let r := { r with given := r.given ++ [flag] }
  if flag = .logout then return { r with options := { r.options with logout := true } }
  else return { r with options := { r.options with setToken := true } }

/-- An argument of the form `--name` or `--name=value`. -/
def long (name : String) (value : Option String) (r : Reading) : Except Stop Reading :=
  match Flag.ofName? name with
  | none => .error (.error (.unexpected ("--" ++ name) (Flag.similar? name) (r.settle now).1.given))
  | some flag =>
    match flag.takesValue, value with
    | false, some value => .error (.error (.unexpectedValue flag value r.given))
    | false, none => r.switch now flag
    | true, none => do return { (← r.settled now) with waiting := some (flag, none) }
    | true, some value => do
      match (← r.settled now).accept now flag value with
      | (r, none) => return r
      | (_, some e) => throw (.error e)

/-- An argument of the form `-abc`. -/
def short (c : Char) (r : Reading) : Except Stop Reading :=
  if c = 'h' then r.switch now .help
  else .error (.error (.unexpected (String.ofList ['-', c]) none []))

/-- An argument that is no flag: the value of the flag that is waiting for one. -/
def value (arg : String) (r : Reading) : Except Stop Reading :=
  match r.plain, r.waiting with
  | false, some (flag, none) => .ok { r with waiting := some (flag, some arg) }
  | _, _ => .error (.error (.unexpected arg none []))

def step (r : Reading) (arg : String) : Except Stop Reading :=
  if r.plain then r.value arg
  else
    match arg.toList with
    | ['-', '-'] => .ok { r with plain := true }
    | '-' :: '-' :: cs =>
      let name := cs.takeWhile (· ≠ '=')
      let value := (cs.dropWhile (· ≠ '=')).tail?
      r.long now (String.ofList name) (value.map String.ofList)
    | '-' :: c :: _ => r.short now c
    | _ => r.value arg

end Reading

/-- Read the arguments; a visit that they ask for starts `now`. -/
def parse (now : Moment) (args : List String) : Except Stop Options := do
  let r ← args.foldlM (Reading.step now) {}
  return (← r.settled now).options

end Options
end Companions
