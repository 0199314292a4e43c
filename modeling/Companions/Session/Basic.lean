import Companions.Moment

/-! The visiting session: whose shared space is being browsed, and as whom. -/
namespace Companions

/-- An inactive session carries no identities. -/
structure Session where
  active : Bool := false
  owner : Option Int64 := none
  visitor : Option Int64 := none
  /-- The share configuration through which the visit was opened. -/
  share : Option Int64 := none
  started : Option Moment := none
  deriving DecidableEq, Inhabited

namespace Session

def inactive : Session := {}

def visiting (now : Moment) (owner visitor : Int64) (share : Option Int64 := none) : Session :=
  { active := true, owner := some owner, visitor := some visitor, share, started := some now }

/-- The session that entering with `s` starts. -/
def opened (now : Moment) (s : Session) : Session :=
  { s with active := true, started := some (s.started.getD now) }

/-- What a request says about the visit; nothing when there is none. -/
def headers (s : Session) : List (String × String) :=
  if s.active then
    ("X-Shared-Mode", "true") ::
      ((s.visitor.map fun id => ("X-Visitor-Id", Number.showInt id.toInt)).toList ++
        (s.share.map fun id => ("X-Share-Config-Id", Number.showInt id.toInt)).toList)
  else []

end Session
end Companions
