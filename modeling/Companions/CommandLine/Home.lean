import Companions.CommandLine.Run

/-! A home directory, and runs of the program in it. -/
namespace Companions

structure Home where
  /-- The files by the parts of their paths. -/
  files : List (List String × List UInt8) := []
  /-- The permissions of the program's own directory, once it is there. -/
  mode : Option Nat := none
  vault : Vault := .vacant

/-- One run: its arguments, its input, and what the environment says. -/
structure Invocation where
  args : List String
  input : List UInt8 := []
  environmentToken : Option String := none
  homeKnown : Bool := true

/-- How a run ends. -/
structure Exit where
  code : Nat
  output : String := ""
  errors : String := ""

namespace Home

/-- The parts of the path of the program's own directory. -/
def ownDirectory : List String := [".config", "quickconnect"]

def isPrefixOf (path longer : List String) : Bool :=
  path.length < longer.length && longer.take path.length == path

def file? (h : Home) (path : List String) : Option (List UInt8) :=
  (h.files.find? fun f => f.1 == path).map Prod.snd

def isDirectory (h : Home) (path : List String) : Bool :=
  path.isEmpty || h.files.any (fun f => isPrefixOf path f.1) ||
    (h.mode.isSome && (path == ownDirectory || isPrefixOf path ownDirectory))

/-- What lies at the end of a path that starts in a directory of the home. Outside of the home
nothing is found. -/
def walk (h : Home) (place : List String) : List String → Found
  | [] => .directory
  | "" :: rest | "." :: rest => h.walk place rest
  | ".." :: rest => if place.isEmpty then .nothing else h.walk place.dropLast rest
  | name :: rest =>
    let next := place ++ [name]
    match h.file? next with
    | some bytes => if rest.isEmpty then .file bytes else .blocked
    | none => if h.isDirectory next then h.walk next rest else .nothing

def partsOf (path : List Char) : List String := (Text.splitAt '/' path).map String.ofList

/-- What a path leads to, seen from the home. -/
def lookUp (h : Home) (path : String) : Found :=
  match path.toList with
  | '/' :: cs => if cs.all (· = '/') then .directory else .nothing
  | cs => h.walk [] (partsOf cs)

def ownFile (name : String) : List String := ownDirectory ++ [name]

/-- A home with the files at these paths, before the first run. -/
def ofFiles (files : List (String × List UInt8)) : Home :=
  let h : Home := { files := files.map fun (path, bytes) => (partsOf path.toList, bytes) }
  let mode :=
    if h.isDirectory ownDirectory || (h.file? ownDirectory).isSome then some 0o755 else none
  let vault : Vault :=
    match h.walk [] (ownFile "credentials.db") with
    | .nothing | .file [] => .vacant
    | .file _ => .foreign
    | .directory | .blocked => .unreachable
  { h with mode, vault }

/-- The program's own directory, made if it is missing, is for its owner only. -/
def prepare (h : Home) : Except Report Home :=
  match h.walk [] ownDirectory with
  | .blocked => .error ⟨"Failed to create config directory", [FileFault.notDirectory.message]⟩
  | _ => .ok { h with mode := some 0o700 }

def exit : Ending → Exit
  | .said text => { code := 0, output := text }
  | .failed report => { code := 1, errors := report.text }
  | .launched _ => { code := 0, output := "Goodbye!\n" }

/-- Run the program in a home that is known to it by `name`. -/
def run (now : Moment) (name : String) (h : Home) (i : Invocation) : Exit × Home :=
  match Options.parse now i.args with
  | .error .help => ({ code := 0, output := Options.helpText }, h)
  | .error (.error e) => ({ code := 2, errors := e.text }, h)
  | .ok o =>
    if !i.homeKnown then
      (exit (.failed ⟨"HOME environment variable not set", ["environment variable not found"]⟩), h)
    else
      match h.prepare with
      | .error report => (exit (.failed report), h)
      | .ok h =>
        let settings :=
          match o.config with
          | some path => h.lookUp path
          | none => h.walk [] (ownFile "config.toml")
        let (ending, vault) := o.perform name settings h.vault i.environmentToken i.input
        (exit ending, { h with vault })

end Home
end Companions
