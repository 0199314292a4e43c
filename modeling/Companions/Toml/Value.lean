/-! Values of a TOML text, and the tables that its headers and keys build up. A table is closed, or
open to more, by the way it was begun. -/
namespace Companions.Toml

/-- How a table was begun. -/
inductive Origin
  /-- By a header of its own. -/
  | header
  /-- By the header of a table inside it. -/
  | implied
  /-- By a key with dots. -/
  | dotted
  deriving DecidableEq

inductive Value
  | text (s : String)
  | integer (n : Int)
  | real (x : Float)
  | bool (b : Bool)
  /-- A date, a time, or both. -/
  | moment
  | array (items : List Value)
  /-- A table written as a value, to which nothing is added later. -/
  | inlineTable (entries : List (String × Value))
  | table (origin : Origin) (entries : List (String × Value))
  /-- The tables of a repeated header, last one first. -/
  | tables (elements : List (List (String × Value)))

abbrev Entries : Type := List (String × Value)

namespace Entries

def get? (key : String) (es : Entries) : Option Value := (es.find? fun e => e.1 == key).map Prod.snd

def put (key : String) (v : Value) (es : Entries) : Entries :=
  (key, v) :: es.filter fun e => e.1 != key

/-- Change the table at the end of a path with `f`, which is told whether a key with dots began it.
A table missing on the way is begun, and of repeated tables the last one is meant. A key with dots
leads into no table that has a header. -/
def alter (byKey : Bool) (f : Bool → Entries → Option Entries) (isDotted : Bool) :
    List String → Entries → Option Entries
  | [], es => f isDotted es
  | key :: path, es =>
    match es.get? key with
    | none =>
      (alter byKey f byKey path []).map fun inner =>
        es.put key (.table (if byKey then .dotted else .implied) inner)
    | some (.table origin inner) =>
      if byKey ∧ origin = .header then none
      else
        (alter byKey f (origin = .dotted) path inner).map fun inner =>
          es.put key (.table origin inner)
    | some (.tables (last :: before)) =>
      (alter byKey f false path last).map fun last => es.put key (.tables (last :: before))
    | some _ => none

/-- Add a new value. A key with dots adds to tables of such keys only. -/
def add (path : List String) (key : String) (v : Value) (es : Entries) : Option Entries :=
  es.alter true (fun isDotted es =>
    if isDotted = path.isEmpty then none
    else if (es.get? key).isSome then none
    else some (es.put key v)) false path

/-- Begin a table with its own header. -/
def beginTable (path : List String) (key : String) (es : Entries) : Option Entries :=
  es.alter false (fun _ es =>
    match es.get? key with
    | none => some (es.put key (.table .header []))
    | some (.table .implied inner) => some (es.put key (.table .header inner))
    | some _ => none) false path

/-- Begin one more table of a repeated header. -/
def beginElement (path : List String) (key : String) (es : Entries) : Option Entries :=
  es.alter false (fun _ es =>
    match es.get? key with
    | none => some (es.put key (.tables [[]]))
    | some (.tables elements) => some (es.put key (.tables ([] :: elements)))
    | some _ => none) false path

end Entries
end Companions.Toml
