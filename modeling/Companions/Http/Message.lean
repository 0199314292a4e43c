import Companions.Json.Value
import Companions.Url.Basic

/-! A request as it is sent, and what comes back. -/
namespace Companions.Http

inductive Method
  | get
  | post
  | put
  deriving DecidableEq

def Method.name : Method → String
  | get => "GET"
  | post => "POST"
  | put => "PUT"

structure Message where
  method : Method
  url : Url
  headers : List (String × String)
  body : Option Json := none

/-- What came of a message. -/
inductive Delivery
  /-- There was no connection, or it was closed before the answer. -/
  | unreachable
  /-- No answer came in time. -/
  | silent
  /-- An answer, with its body unless that broke off. -/
  | answer (status : Nat) (body : Option (List UInt8))

end Companions.Http
