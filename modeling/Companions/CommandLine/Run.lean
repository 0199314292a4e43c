import Companions.App.Basic
import Companions.Backend.Answer
import Companions.CommandLine.Options
import Companions.Settings

/-! What a command line leads to: a token stored or forgotten, or the list on the screen. -/
namespace Companions

/-- Why a run failed, with what lies behind it. -/
structure Report where
  headline : String
  causes : List String := []

/-- Several causes are numbered. -/
def Report.text (r : Report) : String :=
  let causes :=
    match r.causes with
    | [] => ""
    | [cause] => "\n\nCaused by:\n    " ++ cause
    | causes =>
      "\n\nCaused by:" ++
        String.join (causes.zipIdx.map fun (cause, i) => "\n    " ++ toString i ++ ": " ++ cause)
  "Error: " ++ r.headline ++ causes ++ "\n"

/-- The list about to be shown. -/
structure Launch where
  backend : Backend
  credentials : Credentials
  catalog : Catalog
  app : App Float

inductive Ending
  | said (text : String)
  | failed (report : Report)
  | launched (launch : Launch)

namespace Options

/-- The usual place of the settings. -/
def configPath (home : String) (o : Options) : String :=
  o.config.getD (home ++ "/.config/quickconnect/config.toml")

/-- The token in the first line of the input. -/
def readToken (input : List UInt8) : Except Report String :=
  let line := input.takeWhile fun b => b != 10
  match Text.Utf8.decode? line with
  | none => .error ⟨"Failed to read token from stdin", [FileFault.notText.message]⟩
  | some line =>
    let token := Text.trim line
    if token = "" then .error ⟨"No token given on stdin", []⟩ else .ok token

def launch (settings : Settings) (c : Credentials) (visit : Option Session) :
    Except BackendError Launch := do
  let backend ← Backend.ofBase settings.apiBase (settings.timeoutSeconds * 1000000000)
  let cache := PageCache.ofCapacity settings.ttl settings.cacheCapacity.toNat
  let catalog := Catalog.withLimits cache settings.pageLimit settings.searchLimit
  let surface : Surface Float :=
    { geometry := { extent := settings.itemExtent, container := 0.0, overscan := settings.overscan }
      scroll := 0.0
      threshold := settings.virtualizeThreshold
      debouncer := { quiet := settings.quiet } }
  return {
    backend, credentials := c, catalog
    app := { surface, snapshot := catalog.shown, session := visit.getD .inactive } }

/-- Do what the options ask for, with what lies at the place of the settings and in the vault. The
vault is left as the second part says. -/
def perform (o : Options) (home : String) (settings : Found) (vault : Vault)
    (environment : Option String) (input : List UInt8) : Ending × Vault :=
  match Settings.load settings with
  | .error e => (.failed ⟨"Failed to load config from " ++ o.configPath home, e.reasons⟩, vault)
  | .ok settings =>
    match Credentials.ofVault vault with
    | .error e => (.failed ⟨"Failed to open credential store", e.message :: e.reasons⟩, vault)
    | .ok c =>
      let c := c.withOverride (Credentials.overrideFrom environment settings.authToken)
      if o.logout then (.said "Logged out.\n", c.clear.vault)
      else if o.setToken then
        match readToken input with
        | .error report => (.failed report, c.vault)
        | .ok token => (.said "Token stored.\n", (c.set token).vault)
      else
        match launch settings c o.visit with
        | .error e => (.failed ⟨"Failed to create backend client", e.reasons⟩, c.vault)
        | .ok l => (.launched l, c.vault)

end Options
end Companions
