import Companions.Companion
import Companions.Descriptor

/-! What the backend can be asked for. -/
namespace Companions

/-- A call of the backend. -/
inductive Request
  | query (descriptor : Descriptor) (limit : UInt32)
  | search (text : String) (scope : Filter) (limit : UInt32)
  | toggle (id : Int64)
  | reorder (placements : List Placement)
  | access (record : AccessRecord)

/-- What a successful call brings. -/
abbrev Request.Answer : Request → Type
  | query _ _ | search _ _ _ => Page
  | toggle _ => Option Favorite
  | reorder _ | access _ => Unit

end Companions
