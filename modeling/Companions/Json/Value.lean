import Companions.Json.Token

/-! JSON values, and the value of a text. The tokens are consumed one by one with a stack of the
arrays and objects still open, so nesting is limited by memory only. -/
namespace Companions

/-- A JSON value. Members keep the order of the text and may repeat a key. -/
inductive Json
  | null
  | bool (b : Bool)
  | integer (n : Int)
  | real (x : Float)
  | text (s : String)
  | array (items : List Json)
  | object (members : List (String × Json))
  /-- A literal without a value, or an object with such a literal as a key. -/
  | faulty

namespace Json

instance : Inhabited Json := ⟨.null⟩

/-- An array or object still open, its elements last first. A key that is `none` has no value. -/
inductive Frame
  | array (items : List Json)
  | object (members : List (Option String × Json))
  | member (members : List (Option String × Json)) (key : Option String)

/-- What the text may go on with. -/
inductive Expect
  /-- A value. -/
  | value
  /-- A value, or the end of the array just opened. -/
  | valueOrClose
  /-- A key. -/
  | key
  /-- A key, or the end of the object just opened. -/
  | keyOrClose
  /-- The colon after a key. -/
  | colon
  /-- A comma, the end of what is open, or the end of the text. -/
  | more

structure Reading where
  stack : List Frame
  expect : Expect
  /-- The value read last, for a text whose value is complete. -/
  result : Option Json

def closeMembers (members : List (Option String × Json)) : Json :=
  let named := members.reverse.filterMap fun (k, v) => k.map fun k => (k, v)
  if named.length = members.length then .object named else .faulty

/-- Put a complete value where it belongs. -/
def Reading.place (v : Json) : List Frame → Option Reading
  | [] => some ⟨[], .more, some v⟩
  | .array items :: stack => some ⟨.array (v :: items) :: stack, .more, none⟩
  | .member members key :: stack => some ⟨.object ((key, v) :: members) :: stack, .more, none⟩
  | .object _ :: _ => none

def ofNumber : Option Number → Json
  | none => .faulty
  | some (.integer n) => .integer n
  | some (.real x) => .real x

/-- Start or complete a value with a token. -/
def Reading.startValue (stack : List Frame) : Token → Option Reading
  | .null => place .null stack
  | .bool b => place (.bool b) stack
  | .number n => place (ofNumber n) stack
  | .text s => place (s.elim .faulty .text) stack
  | .openArray => some ⟨.array [] :: stack, .valueOrClose, none⟩
  | .openObject => some ⟨.object [] :: stack, .keyOrClose, none⟩
  | _ => none

def Reading.step (r : Reading) (t : Token) : Option Reading :=
  match r.expect, t, r.stack with
  | .value, t, stack => startValue stack t
  | .valueOrClose, .closeArray, .array items :: stack => place (.array items.reverse) stack
  | .valueOrClose, t, stack => startValue stack t
  | .keyOrClose, .closeObject, .object members :: stack => place (closeMembers members) stack
  | .keyOrClose, .text k, .object members :: stack =>
    some ⟨.member members k :: stack, .colon, none⟩
  | .key, .text k, .object members :: stack => some ⟨.member members k :: stack, .colon, none⟩
  | .colon, .colon, stack => some ⟨stack, .value, none⟩
  | .more, .comma, .array items :: stack => some ⟨.array items :: stack, .value, none⟩
  | .more, .comma, .object members :: stack => some ⟨.object members :: stack, .key, none⟩
  | .more, .closeArray, .array items :: stack => place (.array items.reverse) stack
  | .more, .closeObject, .object members :: stack => place (closeMembers members) stack
  | _, _, _ => none

/-- The value that a sequence of tokens spells, if it spells exactly one. -/
def ofTokens? (ts : List Token) : Option Json :=
  (ts.foldlM Reading.step ⟨[], .value, none⟩).bind fun r =>
    match r.stack with
    | [] => r.result
    | _ => none

/-- The value of a JSON text. -/
def parse? (s : String) : Option Json := (tokens? s.toList).bind ofTokens?

mutual

/-- Whether every literal has a value and arrays and objects are nested at most `depth` deep. -/
def isSound (depth : Nat) : Json → Bool
  | .faulty => false
  | .array items =>
    match depth with
    | 0 => false
    | depth + 1 => areSound depth items
  | .object members =>
    match depth with
    | 0 => false
    | depth + 1 => membersSound depth members
  | _ => true

def areSound (depth : Nat) : List Json → Bool
  | [] => true
  | v :: vs => isSound depth v && areSound depth vs

def membersSound (depth : Nat) : List (String × Json) → Bool
  | [] => true
  | (_, v) :: ms => isSound depth v && membersSound depth ms

end

/-- The deepest nesting of a response body. -/
def maxDepth : Nat := 127

/-- The value of a text in which every literal has to have one and nesting is limited. -/
def parseStrict? (s : String) : Option Json :=
  (parse? s).bind fun v => if v.isSound maxDepth then some v else none

/-- The last member of that name. -/
def member? (name : String) (members : List (String × Json)) : Option Json :=
  (members.reverse.find? fun m => m.1 == name).map Prod.snd

mutual

/-- The value with only the last member of each name. -/
def lastWins : Json → Json
  | .array items => .array (lastWinsAll items)
  | .object members => .object (lastWinsMembers members)
  | v => v

def lastWinsAll : List Json → List Json
  | [] => []
  | v :: vs => lastWins v :: lastWinsAll vs

def lastWinsMembers : List (String × Json) → List (String × Json)
  | [] => []
  | (k, v) :: ms =>
    if ms.any fun m => m.1 == k then lastWinsMembers ms else (k, lastWins v) :: lastWinsMembers ms

end

end Json
end Companions
