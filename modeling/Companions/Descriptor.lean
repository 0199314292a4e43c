import Companions.Number.Integer

/-! What can be asked of the companion list: which slice, in which order, with which text. -/
namespace Companions

/-- The slice of the list to show. -/
inductive Filter
  | all
  | favorite
  | recent
  | scene
  deriving DecidableEq, Inhabited

namespace Filter

def name : Filter → String
  | all => "all"
  | favorite => "favorite"
  | recent => "recent"
  | scene => "scene"

def ofName? : String → Option Filter
  | "all" => some all
  | "favorite" => some favorite
  | "recent" => some recent
  | "scene" => some scene
  | _ => none

/-- A search knows no scenes and looks at the whole list instead. -/
def searchScope : Filter → Filter
  | favorite => favorite
  | recent => recent
  | all | scene => all

/-- The tab after this one; a scene is left for the first tab. -/
def nextTab : Filter → Filter
  | all => favorite
  | favorite => recent
  | recent | scene => all

end Filter

/-- The order in which the backend lists companions. -/
inductive SortOrder
  | frequency
  | recent
  | name
  | favorite
  deriving DecidableEq, Inhabited

namespace SortOrder

def label : SortOrder → String
  | frequency => "frequency"
  | recent => "recent"
  | name => "name"
  | favorite => "favorite"

def ofLabel? : String → Option SortOrder
  | "frequency" => some frequency
  | "recent" => some recent
  | "name" => some name
  | "favorite" => some favorite
  | _ => none

/-- The next order in the cycle of four. -/
def next : SortOrder → SortOrder
  | frequency => recent
  | recent => name
  | name => favorite
  | favorite => frequency

end SortOrder

/-- One view of the list: filter, scene, order and search text. -/
structure Descriptor where
  filter : Filter := .all
  group : Option Int64 := none
  sort : SortOrder := .frequency
  search : String := ""
  deriving DecidableEq, Inhabited

namespace Descriptor

def groupLabel : Option Int64 → String
  | none => "all"
  | some id => Number.showInt id.toInt

/-- The name under which a page for this view is kept. The text comes last, so it cannot be taken
for one of the other fields. -/
def cacheKey (d : Descriptor) : String :=
  d.filter.name ++ ":" ++ groupLabel d.group ++ ":" ++ d.sort.label ++ ":" ++ d.search

end Descriptor
end Companions
