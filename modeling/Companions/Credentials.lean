import Companions.Failure
import Companions.Text.Blank

/-! The bearer token: a stored one, and one from outside that stands in for it and is never
stored. -/
namespace Companions

/-- What lies where the token is kept. -/
inductive Vault
  /-- Nothing: the token is kept as long as the program runs. -/
  | memory
  /-- No file, or an empty one. -/
  | vacant
  | file (token : Option String)
  /-- A file with something else in it. -/
  | foreign
  /-- A directory, or a path that leads nowhere. -/
  | unreachable
  deriving DecidableEq

structure Credentials where
  /-- Whether the stored token outlives the program. -/
  durable : Bool := false
  stored : Option String := none
  override : Option String := none
  deriving DecidableEq

namespace Credentials

def ofVault : Vault → Except CredentialError Credentials
  | .memory => .ok {}
  | .vacant => .ok { durable := true }
  | .file stored => .ok { durable := true, stored }
  | .foreign => .error .foreignFile
  | .unreachable => .error .cannotOpen

/-- The token that requests are signed with. -/
def token (c : Credentials) : Option String := c.override.or c.stored

def set (token : String) (c : Credentials) : Credentials := { c with stored := some token }

/-- Forget the stored token; the one from outside stays. -/
def clear (c : Credentials) : Credentials := { c with stored := none }

def withOverride (token : Option String) (c : Credentials) : Credentials :=
  { c with override := token }

/-- The token from outside: the environment's unless it is blank, else the configured one. -/
def overrideFrom (environment configured : Option String) : Option String :=
  (environment.filter fun t => Text.trim t != "").or configured

/-- The credentials as another run finds them. -/
def reopen (c : Credentials) : Credentials :=
  { durable := c.durable, stored := if c.durable then c.stored else none }

/-- A file with a token is for its owner only. -/
def mode? (c : Credentials) : Option Nat := if c.durable then some 0o600 else none

def vault (c : Credentials) : Vault := if c.durable then .file c.stored else .memory

end Credentials
end Companions
