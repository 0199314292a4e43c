import Companions.File
import Companions.PageCache
import Companions.Text.Blank
import Companions.Text.Quoted
import Companions.Text.Utf8
import Companions.Toml.Document

/-! The settings of a user, all of them optional, and the file that they are read from. -/
namespace Companions

structure Settings where
  /-- The root of the backend's endpoints. -/
  apiBase : String := "http://localhost:8081/api"
  /-- How many seconds a page is good for. -/
  cacheTtl : UInt64 := 300
  cacheCapacity : UInt64 := 256
  /-- How many milliseconds a search text has to stay the same. -/
  searchDebounce : UInt64 := 300
  pageLimit : UInt32 := 50
  searchLimit : UInt32 := 50
  /-- How many seconds an answer may take. -/
  requestTimeout : UInt64 := 20
  /-- The height of one row of the list. -/
  itemExtent : Float := 1.0
  overscan : UInt64 := 2
  /-- A list of at most this many companions is drawn whole. -/
  virtualizeThreshold : UInt64 := 50
  authToken : Option String := none

inductive SettingsError
  | unreadable (fault : FileFault)
  | malformed
  | tooLarge (size : Nat)
  deriving DecidableEq

namespace Settings

/-- The largest size of the file in bytes. -/
def maxSize : Nat := 1048576

end Settings

namespace SettingsError

def message : SettingsError → String
  | unreadable fault => "Failed to read config file: " ++ fault.message
  | malformed => "Invalid TOML in config file: not the expected entries"
  | tooLarge size =>
    "Config file too large: Config file is " ++ toString size ++ " bytes (max " ++
      toString Settings.maxSize ++ " bytes)"

/-- The message, with what lies behind it after it. -/
def reasons (e : SettingsError) : List String :=
  match e with
  | unreadable fault => [e.message, fault.message]
  | malformed => [e.message, "not the expected entries"]
  | tooLarge _ => [e.message]

end SettingsError

namespace Toml.Value

def asText : Value → Option String
  | text s => some s
  | _ => none

def asUInt64 : Value → Option UInt64
  | integer n => Number.uint64? n
  | _ => none

def asUInt32 : Value → Option UInt32
  | integer n => Number.uint32? n
  | _ => none

/-- An integer is a number too. -/
def asReal : Value → Option Float
  | real x => some x
  | integer n =>
    let x := Number.Decimal.nearest ⟨n.natAbs, 0⟩
    some (if n < 0 then -x else x)
  | _ => none

end Toml.Value

namespace Settings

/-- An entry, or the default when it is missing; `none` when its value is of another type or out of
range. -/
def entry {α : Type} (es : Toml.Entries) (key : String) (read : Toml.Value → Option α)
    (default : α) : Option α :=
  match es.get? key with
  | none => some default
  | some v => read v

/-- Entries with other keys do not matter. -/
def ofToml? (es : Toml.Entries) : Option Settings := do
  let d : Settings := {}
  let apiBase ← entry es "api_base_url" Toml.Value.asText d.apiBase
  let cacheTtl ← entry es "cache_ttl_secs" Toml.Value.asUInt64 d.cacheTtl
  let cacheCapacity ← entry es "cache_capacity" Toml.Value.asUInt64 d.cacheCapacity
  let searchDebounce ← entry es "search_debounce_ms" Toml.Value.asUInt64 d.searchDebounce
  let pageLimit ← entry es "page_limit" Toml.Value.asUInt32 d.pageLimit
  let searchLimit ← entry es "search_limit" Toml.Value.asUInt32 d.searchLimit
  let requestTimeout ← entry es "request_timeout_secs" Toml.Value.asUInt64 d.requestTimeout
  let itemExtent ← entry es "item_extent" Toml.Value.asReal d.itemExtent
  let overscan ← entry es "overscan" Toml.Value.asUInt64 d.overscan
  let virtualizeThreshold ←
    entry es "virtualize_threshold" Toml.Value.asUInt64 d.virtualizeThreshold
  let authToken ← entry es "auth_token" (fun v => v.asText.map some) none
  return {
    apiBase, cacheTtl, cacheCapacity, searchDebounce, pageLimit, searchLimit, requestTimeout,
    itemExtent, overscan, virtualizeThreshold, authToken }

/-- Without a file, and with a blank one, everything is at its default. -/
def load : Found → Except SettingsError Settings
  | .nothing => .ok {}
  | .directory => .error (.unreadable .isDirectory)
  | .blocked => .error (.unreadable .notDirectory)
  | .file bytes =>
    let size := bytes.length
    if maxSize < size then .error (.tooLarge size)
    else
      match Text.Utf8.decode? bytes with
      | none => .error (.unreadable .notText)
      | some text =>
        if Text.trim text = "" then .ok {}
        else
          match (Toml.parse? text).bind ofToml? with
          | some s => .ok s
          | none => .error .malformed

/-- How long a page is good for. -/
def ttl (s : Settings) : Nanos := s.cacheTtl.toNat * 1000000000

def quiet (s : Settings) : Nanos := Nanos.ofMillis s.searchDebounce.toNat

/-- How many seconds an answer may take, at least one. -/
def timeoutSeconds (s : Settings) : Nat := max s.requestTimeout.toNat 1

/-- Numbers are written positionally from 1e-4 below 1e16. -/
def realText : Number.Positional := ⟨-4, 16⟩

/-- All settings, without the token itself. -/
def summary (s : Settings) : String :=
  let whole (n : UInt64) : String := toString n.toNat
  let token := if s.authToken.isSome then "Some(\"[REDACTED]\")" else "None"
  "Config \x7b " ++ String.intercalate ", " [
    "api_base_url: " ++ Text.quoted s.apiBase,
    "cache_ttl_secs: " ++ whole s.cacheTtl,
    "cache_capacity: " ++ whole s.cacheCapacity,
    "search_debounce_ms: " ++ whole s.searchDebounce,
    "page_limit: " ++ toString s.pageLimit.toNat,
    "search_limit: " ++ toString s.searchLimit.toNat,
    "request_timeout_secs: " ++ whole s.requestTimeout,
    "item_extent: " ++ realText.text s.itemExtent,
    "overscan: " ++ whole s.overscan,
    "virtualize_threshold: " ++ whole s.virtualizeThreshold,
    "auth_token: " ++ token] ++ " \x7d"

end Settings
end Companions
