import Companions.Text.Search

/-! What can go wrong when talking to the backend, and what the user is told. -/
namespace Companions

/-- Why a text is not a URL. -/
inductive UrlError
  | emptyHost
  | invalidDomain
  | invalidPort
  | invalidIpv4
  | invalidIpv6
  | invalidDomainCharacter
  | relativeWithoutBase
  | relativeWithOpaqueBase
  | overflow
  deriving DecidableEq

def UrlError.message : UrlError → String
  | emptyHost => "empty host"
  | invalidDomain => "invalid international domain name"
  | invalidPort => "invalid port number"
  | invalidIpv4 => "invalid IPv4 address"
  | invalidIpv6 => "invalid IPv6 address"
  | invalidDomainCharacter => "invalid domain character"
  | relativeWithoutBase => "relative URL without a base"
  | relativeWithOpaqueBase => "relative URL with a cannot-be-a-base base"
  | overflow => "URLs more than 4 GB are not supported"

/-- Why no response was received whole. -/
inductive NetworkFault
  /-- No connection, or one closed before the answer. -/
  | unreachable
  /-- The body broke off. -/
  | interrupted
  /-- The request cannot be written: a header value has a character that is not allowed. -/
  | unsendable
  /-- The URL names a scheme other than http and https. -/
  | foreignScheme (url : String)
  deriving DecidableEq

def NetworkFault.message : NetworkFault → String
  | unreachable => "error sending request"
  | interrupted => "error decoding response body"
  | unsendable => "builder error"
  | foreignScheme url => "builder error for url (" ++ url ++ ")"

/-- Why the store of the credential did not answer. -/
inductive CredentialError
  | cannotOpen
  /-- The file holds something else. -/
  | foreignFile
  | noRow
  deriving DecidableEq

namespace CredentialError

/-- What the database said, if it said something. -/
def fault? : CredentialError → Option String
  | cannotOpen => some "(code: 14) unable to open database file"
  | foreignFile => some "(code: 26) file is not a database"
  | noRow => none

/-- What went wrong, with what lies behind it after it. -/
def reasons (e : CredentialError) : List String :=
  match e.fault? with
  | some fault => ["error returned from database: " ++ fault, fault]
  | none => ["no rows returned by a query that expected to return at least one row"]

def message (e : CredentialError) : String :=
  "Credential store error: " ++ e.reasons.headD ""

end CredentialError

/-- Failures of one backend call. -/
inductive BackendError
  | timeout (seconds : Nat)
  | network (fault : NetworkFault)
  /-- An answer that is not a success, with the server's own message. -/
  | status (code : Nat) (message : String)
  | missingCredential
  | undecodable
  | invalidUrl (reason : UrlError)
  | credential (reason : CredentialError)
  deriving DecidableEq

namespace BackendError

def message : BackendError → String
  | timeout seconds => "Request timed out after " ++ toString seconds ++ "s"
  | network fault => "Network error: " ++ fault.message
  | status code message => "HTTP " ++ toString code ++ ": " ++ message
  | missingCredential => "No credential stored; log in first"
  | undecodable => "Invalid response body: not the expected JSON"
  | invalidUrl reason => "Invalid endpoint URL: " ++ reason.message
  | credential reason => reason.message

/-- The message, with what lies behind it after it. -/
def reasons (e : BackendError) : List String :=
  e.message ::
    match e with
    | network fault => [fault.message]
    | invalidUrl reason => [reason.message]
    | credential reason => reason.reasons
    | _ => []

/-- The server's own words, when it had any. -/
def serverMessage? : BackendError → Option String
  | status _ message => if message = "" then none else some message
  | _ => none

end BackendError

/-- The kinds of failure that a user is told apart. -/
inductive FailureKind
  | network
  | timeout
  | rateLimited
  | unauthorized
  | server
  | unknown
  deriving DecidableEq

namespace FailureKind

def name : FailureKind → String
  | network => "Network"
  | timeout => "Timeout"
  | rateLimited => "RateLimited"
  | unauthorized => "Unauthorized"
  | server => "Server"
  | unknown => "Unknown"

def userMessage : FailureKind → String
  | network => "Network unavailable. Check your connection and try again."
  | timeout => "The request timed out. Please try again."
  | rateLimited => "Too many requests. Please wait a moment and try again."
  | unauthorized => "Your session has expired. Please log in again."
  | server => "The server ran into a problem. Please try again later."
  | unknown => "Something went wrong. Please try again."

/-- The kind of an HTTP status, if it alone decides. -/
def ofStatus? (code : Nat) : Option FailureKind :=
  if code = 401 ∨ code = 403 then some unauthorized
  else if code = 408 ∨ code = 504 then some timeout
  else if code = 429 then some rateLimited
  else if 500 ≤ code ∧ code ≤ 599 then some server
  else none

/-- The words by which a message is recognized; the first kind that has one of its words wins. -/
def clues : List (FailureKind × List String) := [
  (timeout, ["timeout", "timed out"]),
  (rateLimited, ["rate limit", "too many requests"]),
  (unauthorized, ["unauthorized", "forbidden", "401", "log in"]),
  (network, ["network", "connection", "dns", "failed to fetch"]),
  (server, ["server error", "500"])]

def ofMessage (message : String) : FailureKind :=
  match clues.find? fun (_, words) => words.any (Text.mentions message.toList) with
  | some (kind, _) => kind
  | none => unknown

def ofFault (fault : NetworkFault) : FailureKind :=
  match fault with
  | .unreachable => network
  | _ => ofMessage fault.message

def classify : BackendError → FailureKind
  | .timeout _ => timeout
  | .missingCredential => unauthorized
  | .status code message => (ofStatus? code).getD (ofMessage message)
  | .network fault => ofFault fault
  | .undecodable | .invalidUrl _ | .credential _ => unknown

end FailureKind

/-- A failure as shown to the user: its kind, and the details. -/
structure Failure where
  kind : FailureKind
  detail : Option String := none
  deriving DecidableEq

namespace Failure

def shown (f : Failure) : String := f.kind.userMessage

/-- The server's own words are the detail, and the error's text when there are none. -/
def ofBackend (e : BackendError) : Failure :=
  ⟨FailureKind.classify e, some (e.serverMessage?.getD e.message)⟩

end Failure
end Companions
