import Companions.Session.Basic
import Companions.Text.Quoted
import Companions.Text.Search

/-! The written form of a visit: `OWNER:VISITOR` or `OWNER:VISITOR:SHARE_ID`. -/
namespace Companions

inductive VisitPart
  | owner
  | visitor
  | share
  deriving DecidableEq

def VisitPart.label : VisitPart → String
  | owner => "owner"
  | visitor => "visitor"
  | share => "share config"

inductive VisitError
  | badPart (part : VisitPart) (text : String)
  | badForm
  deriving DecidableEq

def VisitError.message : VisitError → String
  | badPart part text => "invalid " ++ part.label ++ " id: " ++ Text.quoted text
  | badForm => "expected OWNER:VISITOR[:SHARE_ID]"

namespace Session

def readPart (part : VisitPart) (text : List Char) : Except VisitError Int64 :=
  match Number.readInt64? (Text.trimChars text) with
  | some id => .ok id
  | none => .error (.badPart part (String.ofList text))

/-- Read a visit; the first part that is not a number is to blame. -/
def ofSpec (now : Moment) (spec : String) : Except VisitError Session :=
  match Text.splitAt ':' spec.toList with
  | [owner, visitor] => do
    let owner ← readPart .owner owner
    let visitor ← readPart .visitor visitor
    return visiting now owner visitor
  | [owner, visitor, share] => do
    let owner ← readPart .owner owner
    let visitor ← readPart .visitor visitor
    let share ← readPart .share share
    return visiting now owner visitor (some share)
  | _ => .error .badForm

end Session
end Companions
