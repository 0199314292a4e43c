import Companions.Backend.Endpoint
import Companions.Credentials
import Companions.Http.Status
import Companions.Text.Utf8

/-! What the backend's answers mean. A success brings a value; anything else brings the server's own
words, or words for its status. -/
namespace Companions

/-- What a success without a body brings. -/
def Request.nothing : (r : Request) → r.Answer
  | query _ _ | search _ _ _ => ({} : Page)
  | toggle _ => none
  | reorder _ | access _ => ()

/-- What a value in the body brings. Nothing is expected of the answer to an order or a receipt. -/
def Request.decode? : (r : Request) → Json → Option r.Answer
  | query _ _, v | search _ _ _, v => Page.ofJson? v
  | toggle _, v => Json.nullable Favorite.ofJson? v
  | reorder _, _ | access _, _ => some ()

namespace Backend

/-- The value that counts in a body: an envelope with a code is opened. -/
def payload : Json → Json
  | .object members =>
    match Json.member? "code" members, Json.member? "data" members with
    | some _, some data => data
    | _, _ => .object members
  | v => v

def nonEmptyText? (name : String) (members : List (String × Json)) : Option String :=
  match Json.member? name members with
  | some (.text s) => if s = "" then none else some s
  | _ => none

/-- The server's own words in the body of a failure: its message, its error, or all of it. -/
def words? (body : String) : Option String :=
  let body := Text.trim body
  if body = "" then none
  else
    match Json.parseStrict? body with
    | some (.object members) =>
      some (((nonEmptyText? "message" members).or (nonEmptyText? "error" members)).getD body)
    | _ => some body

/-- What a status says without words of the server. -/
def statusWords : Nat → String
  | 401 => "Unauthorized: please log in again"
  | 403 => "Permission denied"
  | 404 => "Resource not found or deleted"
  | 500 => "Internal server error, please try again later"
  | status =>
    "Request failed: " ++ toString status ++ ((Http.reason? status).map (" " ++ ·)).getD ""

/-- The message of a failure; a body that broke off counts as empty. -/
def failureWords (status : Nat) (body : Option (List UInt8)) : String :=
  (words? ((body.map Text.Utf8.decodeLossy).getD "")).getD (statusWords status)

/-- The value of a success. -/
def readSuccess (r : Request) (status : Nat) (body : Option (List UInt8)) :
    Except BackendError r.Answer :=
  if status = 204 then .ok r.nothing
  else
    match body with
    | none => .error (.network .interrupted)
    | some bytes =>
      let text := Text.Utf8.decodeLossy bytes
      if Text.trim text = "" then .ok r.nothing
      else
        match (Json.parseStrict? text).bind fun v => r.decode? (payload v.lastWins) with
        | some a => .ok a
        | none => .error .undecodable

/-- What a request comes to, and the credentials after it: the stored token is forgotten when the
server does not know who asks. -/
def conclude (b : Backend) (r : Request) (c : Credentials) :
    Http.Delivery → Except BackendError r.Answer × Credentials
  | .unreachable => (.error (.network .unreachable), c)
  | .silent => (.error (.timeout (b.timeout / 1000000000)), c)
  | .answer status body =>
    if Http.isSuccess status then (readSuccess r status body, c)
    else
      (.error (.status status (failureWords status body)), if status = 401 then c.clear else c)

/-- Ask for something, `deliver` standing for the way to the server and back. -/
def call (b : Backend) (s : Session) (deliver : Http.Message → Http.Delivery) (r : Request)
    (c : Credentials) : Except BackendError r.Answer × Credentials :=
  match b.compose c.token s r with
  | .error e => (.error e, c)
  | .ok m => b.conclude r c (deliver m)

end Backend
end Companions
