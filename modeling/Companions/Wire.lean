import Companions.Companion
import Companions.Descriptor
import Companions.Json.Row

/-! How the backend writes companions, pages and the other records. -/
namespace Companions

open Json (ofOption ofInt64 ofInt32 ofUInt64 ofUInt32)

namespace Filter

def toJson (f : Filter) : Json := .text f.name

def ofJson? (j : Json) : Option Filter := j.asCase.bind ofName?

end Filter

namespace SortOrder

def toJson (s : SortOrder) : Json := .text s.label

def ofJson? (j : Json) : Option SortOrder := j.asCase.bind ofLabel?

end SortOrder

namespace Moment

def toJson (t : Moment) : Json := .integer t.millis

/-- Milliseconds as an integer of at most 64 bits. -/
def ofJson? : Json → Option Moment
  | .integer n => ofMillis? n
  | _ => none

end Moment

namespace Companion

def fields : List String :=
  ["characterId", "characterName", "avatarUrl", "sceneId", "sceneName", "tags", "isFavorite",
    "accessCount", "lastAccessTime", "isOnline", "unreadCount", "recommendationScore"]

def toJson (c : Companion) : Json :=
  .object [
    ("characterId", ofInt64 c.id),
    ("characterName", .text c.name),
    ("avatarUrl", ofOption .text c.avatar),
    ("sceneId", ofOption ofInt64 c.sceneId),
    ("sceneName", ofOption .text c.sceneName),
    ("tags", .array (c.tags.map .text)),
    ("isFavorite", .bool c.isFavorite),
    ("accessCount", ofUInt64 c.accessCount),
    ("lastAccessTime", ofOption Moment.toJson c.lastAccess),
    ("isOnline", ofOption .bool c.isOnline),
    ("unreadCount", ofOption ofUInt32 c.unread),
    ("recommendationScore", .real c.score)]

/-- All but the id and the name may be missing. -/
def ofJson? (j : Json) : Option Companion := do
  let row ← j.row? fields
  let id ← (row "characterId").required Json.asInt64
  let name ← (row "characterName").required Json.asText
  let avatar ← (row "avatarUrl").orElse none (Json.nullable Json.asText)
  let sceneId ← (row "sceneId").orElse none (Json.nullable Json.asInt64)
  let sceneName ← (row "sceneName").orElse none (Json.nullable Json.asText)
  let tags ← (row "tags").orElse [] (Json.asList Json.asText)
  let isFavorite ← (row "isFavorite").orElse false Json.asBool
  let accessCount ← (row "accessCount").orElse 0 Json.asUInt64
  let lastAccess ← (row "lastAccessTime").orElse none (Json.nullable Moment.ofJson?)
  let isOnline ← (row "isOnline").orElse none (Json.nullable Json.asBool)
  let unread ← (row "unreadCount").orElse none (Json.nullable Json.asUInt32)
  let score ← (row "recommendationScore").orElse 0.0 Json.asDouble
  return {
    id, name, avatar, sceneId, sceneName, tags, isFavorite, accessCount, lastAccess, isOnline,
    unread, score }

end Companion

namespace Page

def fields : List String := ["characters", "totalCount", "favoriteCount", "recentCount"]

def toJson (p : Page) : Json :=
  .object [
    ("characters", .array (p.companions.map Companion.toJson)),
    ("totalCount", ofUInt64 p.total),
    ("favoriteCount", ofUInt64 p.favorites),
    ("recentCount", ofUInt64 p.recents)]

def ofJson? (j : Json) : Option Page := do
  let row ← j.row? fields
  let companions ← (row "characters").orElse [] (Json.asList Companion.ofJson?)
  let total ← (row "totalCount").orElse 0 Json.asUInt64
  let favorites ← (row "favoriteCount").orElse 0 Json.asUInt64
  let recents ← (row "recentCount").orElse 0 Json.asUInt64
  return { companions, total, favorites, recents }

end Page

namespace Favorite

def fields : List String := ["id", "characterId", "sortOrder"]

def toJson (f : Favorite) : Json :=
  .object [
    ("id", ofInt64 f.id),
    ("characterId", ofInt64 f.companionId),
    ("sortOrder", ofOption ofInt32 f.position)]

def ofJson? (j : Json) : Option Favorite := do
  let row ← j.row? fields
  let id ← (row "id").orElse 0 Json.asInt64
  let companionId ← (row "characterId").required Json.asInt64
  let position ← (row "sortOrder").orElse none (Json.nullable Json.asInt32)
  return { id, companionId, position }

end Favorite

namespace Placement

def fields : List String := ["characterId", "sortOrder"]

def toJson (p : Placement) : Json :=
  .object [("characterId", ofInt64 p.companionId), ("sortOrder", ofInt32 p.position)]

def ofJson? (j : Json) : Option Placement := do
  let row ← j.row? fields
  let companionId ← (row "characterId").required Json.asInt64
  let position ← (row "sortOrder").required Json.asInt32
  return { companionId, position }

end Placement

namespace AccessRecord

def fields : List String := ["characterId", "accessDuration", "conversationRounds", "sessionId"]

/-- What is not known is left out. -/
def toJson (r : AccessRecord) : Json :=
  .object (
    ("characterId", ofInt64 r.companionId) ::
    ((r.duration.map fun n => ("accessDuration", ofUInt32 n)).toList ++
      (r.rounds.map fun n => ("conversationRounds", ofUInt32 n)).toList ++
      (r.conversation.map fun s => ("sessionId", .text s)).toList))

def ofJson? (j : Json) : Option AccessRecord := do
  let row ← j.row? fields
  let companionId ← (row "characterId").required Json.asInt64
  let duration ← (row "accessDuration").orAbsent none (Json.nullable Json.asUInt32)
  let rounds ← (row "conversationRounds").orAbsent none (Json.nullable Json.asUInt32)
  let conversation ← (row "sessionId").orAbsent none (Json.nullable Json.asText)
  return { companionId, duration, rounds, conversation }

end AccessRecord
end Companions
