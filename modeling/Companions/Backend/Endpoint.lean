import Companions.Backend.Request
import Companions.Http.Message
import Companions.PageCache
import Companions.Signing
import Companions.Wire

/-! Where a backend is found, and the messages that it is asked with. -/
namespace Companions

structure Backend where
  /-- The root of all endpoints, without slashes at its end. -/
  base : String
  timeout : Nanos := Nanos.ofMillis 20000

/-- The place of a request below the root. -/
def Request.path : Request → String
  | query _ _ => "/quick-connect/characters"
  | search _ _ _ => "/quick-connect/search"
  | toggle _ => "/favorites/toggle"
  | reorder _ => "/favorites/reorder"
  | access _ => "/access-history"

def Request.method : Request → Http.Method
  | query _ _ | search _ _ _ => .get
  | toggle _ | access _ => .post
  | reorder _ => .put

/-- What a query says about the view: no scene and no text are left out. -/
def Descriptor.pairs (d : Descriptor) (limit : UInt32) : List (String × String) :=
  ("filter", d.filter.name) ::
    ((d.group.map fun id => ("sceneId", Number.showInt id.toInt)).toList ++
      [("sortBy", d.sort.label), ("limit", toString limit.toNat), ("offset", "0")] ++
      (if d.search = "" then [] else [("search", d.search)]))

def Request.pairs : Request → List (String × String)
  | query d limit => d.pairs limit
  | search text scope limit =>
    [("query", text), ("filter", scope.searchScope.name), ("limit", toString limit.toNat)]
  | toggle _ | reorder _ | access _ => []

def Request.body? : Request → Option Json
  | query _ _ | search _ _ _ => none
  | toggle id => some (.object [("characterId", Json.ofInt64 id)])
  | reorder placements => some (.array (placements.map Placement.toJson))
  | access record => some record.toJson

namespace Backend

def userAgent : String := "quickconnect/0.1.0"

/-- A backend at an address; the slashes at the end of the address do not count. -/
def ofBase (base : String) (timeout : Nanos) : Except BackendError Backend :=
  match Url.parse base with
  | .error e => .error (.invalidUrl e)
  | .ok _ =>
    .ok { base := String.ofList (base.toList.reverse.dropWhile (· = '/')).reverse, timeout }

def endpoint (b : Backend) (r : Request) : Except BackendError Url :=
  match Url.parse (b.base ++ r.path) with
  | .error e => .error (.invalidUrl e)
  | .ok url => .ok (url.addPairs r.pairs)

/-- The headers of a request without a body, and of one with a body. -/
def plainHeaders (body : Option Json) : List (String × String) :=
  (if body.isSome then [("Content-Type", "application/json")] else []) ++
    [("User-Agent", userAgent)]

/-- The message for a request, signed with the token at hand and for the visit under way. -/
def compose (b : Backend) (token : Option String) (s : Session) (r : Request) :
    Except BackendError Http.Message := do
  let url ← b.endpoint r
  let some token := token | throw .missingCredential
  if !url.hasHost then throw (.network (.foreignScheme url.text))
  let some signature := Signing.sign (some token) s | throw (.network .unsendable)
  if url.scheme ≠ "http" ∧ url.scheme ≠ "https" then
    throw (.network (.foreignScheme url.text))
  return {
    method := r.method, url
    headers := signature ++ plainHeaders r.body?
    body := r.body? }

end Backend
end Companions
