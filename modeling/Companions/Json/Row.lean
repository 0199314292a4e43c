import Companions.Json.Value

/-! Reading records. A record is an object, whose unknown members are skipped, or an array of its
fields in their declared order. -/
namespace Companions.Json

/-- What a record says about one field. -/
inductive Slot
  | given (v : Json)
  /-- An object without that member. -/
  | absent
  /-- An array that ends before that field. -/
  | beyond

def position? (name : String) : List String → Option Nat
  | [] => none
  | n :: ns => if n == name then some 0 else (position? name ns).map (· + 1)

/-- The fields of a record by name. An object may name each field once only, and an array may not
be longer than the record. -/
def row? (fields : List String) : Json → Option (String → Slot)
  | .object members =>
    if fields.any fun f => 2 ≤ members.countP fun m => m.1 == f then none
    else some fun name =>
      match members.find? fun m => m.1 == name with
      | some (_, v) => .given v
      | none => .absent
  | .array items =>
    if fields.length < items.length then none
    else some fun name =>
      match (position? name fields).bind fun i => items[i]? with
      | some v => .given v
      | none => .beyond
  | _ => none

variable {α : Type}

def Slot.required (decode : Json → Option α) : Slot → Option α
  | .given v => decode v
  | _ => none

def Slot.orElse (default : α) (decode : Json → Option α) : Slot → Option α
  | .given v => decode v
  | _ => some default

/-- A field that an object may leave out, but an array may not. -/
def Slot.orAbsent (default : α) (decode : Json → Option α) : Slot → Option α
  | .given v => decode v
  | .absent => some default
  | .beyond => none

def nullable (decode : Json → Option α) : Json → Option (Option α)
  | .null => some none
  | v => (decode v).map some

def asBool : Json → Option Bool
  | .bool b => some b
  | _ => none

def asText : Json → Option String
  | .text s => some s
  | _ => none

def asInt64 : Json → Option Int64
  | .integer n => Number.int64? n
  | _ => none

def asInt32 : Json → Option Int32
  | .integer n => Number.int32? n
  | _ => none

def asUInt64 : Json → Option UInt64
  | .integer n => Number.uint64? n
  | _ => none

def asUInt32 : Json → Option UInt32
  | .integer n => Number.uint32? n
  | _ => none

/-- The double nearest to an integer of at most 64 bits. -/
def doubleOfInt (n : Int) : Float :=
  if n < 0 then -(UInt64.ofNat (-n).toNat).toFloat else (UInt64.ofNat n.toNat).toFloat

def asDouble : Json → Option Float
  | .integer n => some (doubleOfInt n)
  | .real x => some x
  | _ => none

def asList (decode : Json → Option α) : Json → Option (List α)
  | .array items => items.mapM decode
  | _ => none

/-- The name of a case without data, also in the form of an object with a null member. -/
def asCase : Json → Option String
  | .text s => some s
  | .object [(k, .null)] => some k
  | _ => none

def ofOption (encode : α → Json) : Option α → Json
  | none => .null
  | some a => encode a

def ofInt64 (n : Int64) : Json := .integer n.toInt

def ofInt32 (n : Int32) : Json := .integer n.toInt

def ofUInt64 (n : UInt64) : Json := .integer n.toNat

def ofUInt32 (n : UInt32) : Json := .integer n.toNat

end Companions.Json
