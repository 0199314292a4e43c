import Companions.Moment

/-! Companions and the pages that the backend sends of them. -/
namespace Companions

/-- One companion as the backend describes it; only the favorite flag is ever changed locally. -/
structure Companion where
  id : Int64
  name : String
  avatar : Option String := none
  sceneId : Option Int64 := none
  sceneName : Option String := none
  tags : List String := []
  isFavorite : Bool := false
  accessCount : UInt64 := 0
  lastAccess : Option Moment := none
  isOnline : Option Bool := none
  unread : Option UInt32 := none
  score : Float := 0.0

/-- A page of the list in the backend's order, with the counters of the filter tabs. -/
structure Page where
  companions : List Companion := []
  total : UInt64 := 0
  favorites : UInt64 := 0
  recents : UInt64 := 0

instance : Inhabited Page := ⟨{}⟩

/-- The backend's record of a favorite. -/
structure Favorite where
  id : Int64 := 0
  companionId : Int64
  position : Option Int32 := none

/-- The place of one favorite in a new order. -/
structure Placement where
  companionId : Int64
  position : Int32

/-- A note that a companion was opened. -/
structure AccessRecord where
  companionId : Int64
  duration : Option UInt32 := none
  rounds : Option UInt32 := none
  conversation : Option String := none

end Companions
