import Companions.CommandLine.Run
import Companions.Screen.Frame
import Std.Time.DateTime.Timestamp

/-! The program: it looks up what the options need, does what they lead to, and prints the outcome.
The list is printed as its first screen shows it. -/
namespace Companions.Main

def found (path : String) : IO Found := do
  try
    return .file (← IO.FS.readBinFile path).toList
  catch e =>
    match e with
    | .noFileOrDirectory .. => return .nothing
    | .inappropriateType _ code _ => return if code = 20 then .blocked else .directory
    | _ => throw e

/-- The token is kept as the text of a file, which is empty when there is none. -/
def vaultAt (path : String) : IO Vault := do
  match ← found path with
  | .nothing | .file [] => return .vacant
  | .file bytes =>
    match Text.Utf8.decode? bytes with
    | some token => return .file (some token)
    | none => return .foreign
  | .directory | .blocked => return .unreachable

def keep (path : String) : Vault → IO Unit
  | .file token => do
    IO.FS.writeFile path ""
    IO.setAccessRights path { user := { read := true, write := true } }
    IO.FS.writeFile path (token.getD "")
  | _ => return ()

def now : IO Moment := do
  let t ← Std.Time.Timestamp.now
  return (Moment.ofMillis? t.toMillisecondsSinceUnixEpoch.val).getD ⟨0, by decide, by decide⟩

def firstScreen (now : Moment) (l : Launch) : String :=
  let (_, canvas) := Screen.draw now 80 24 l.app
  String.join (canvas.rows.map (· ++ "\n"))

def finish (now : Moment) : Ending → IO UInt32
  | .said text => do
    IO.print text
    return 0
  | .failed report => do
    IO.eprint report.text
    return 1
  | .launched l => do
    IO.print (firstScreen now l)
    IO.println "Goodbye!"
    return 0

def run (now : Moment) (o : Options) : IO UInt32 := do
  match ← IO.getEnv "HOME" with
  | none =>
    finish now (.failed ⟨"HOME environment variable not set", ["environment variable not found"]⟩)
  | some home =>
    let own := home ++ "/.config/quickconnect"
    IO.FS.createDirAll own
    IO.setAccessRights own { user := { read := true, write := true, execution := true } }
    let place := own ++ "/credentials.db"
    let input ←
      if o.setToken && !o.logout then (·.toUTF8.toList) <$> (← IO.getStdin).getLine else pure []
    let (ending, vault) := o.perform home (← found (o.configPath home)) (← vaultAt place)
      (← IO.getEnv "QUICKCONNECT_TOKEN") input
    keep place vault
    finish now ending

end Companions.Main

open Companions in
def main (args : List String) : IO UInt32 := do
  let now ← Main.now
  match Options.parse now args with
  | .error .help =>
    IO.print Options.helpText
    return 0
  | .error (.error e) =>
    IO.eprint e.text
    return 2
  | .ok o => Main.run now o
