/-! Search input that waits for a pause in typing. Of the texts submitted, one is settled when a
quiet window has passed since with nothing newer. -/
namespace Companions

/-- A text waiting for its window to pass. -/
structure Submission where
  ticket : UInt64
  text : String
  due : Nat
  deriving DecidableEq

/-- Times are in nanoseconds. -/
structure Debouncer where
  quiet : Nat
  /-- The ticket given out last, or the last cancellation. -/
  latest : UInt64 := 0
  /-- In the order of submission, which is the order in which they fall due. -/
  waiting : List Submission := []

namespace Debouncer

def defaultQuiet : Nat := 300000000

def submit (now : Nat) (text : String) (d : Debouncer) : Debouncer :=
  let ticket := d.latest + 1
  { d with latest := ticket, waiting := d.waiting ++ [⟨ticket, text, now + d.quiet⟩] }

/-- Give up whatever is waiting. -/
def cancel (d : Debouncer) : Debouncer := { d with latest := d.latest + 1 }

/-- The tickets whose windows have passed. -/
def due (now : Nat) (d : Debouncer) : List UInt64 :=
  (d.waiting.filter fun s => s.due ≤ now).map Submission.ticket

/-- Decide a submission: its text if nothing came after it. -/
def decide (ticket : UInt64) (d : Debouncer) : Option String × Debouncer :=
  match d.waiting.find? fun s => s.ticket == ticket with
  | none => (none, d)
  | some s =>
    (if d.latest = ticket then some s.text else none,
      { d with waiting := d.waiting.filter fun s => s.ticket != ticket })

/-- Decide all that is due: the texts settled, in order. -/
def settle (now : Nat) (d : Debouncer) : List String × Debouncer :=
  (d.due now).foldl
    (fun (texts, d) ticket =>
      match d.decide ticket with
      | (some text, d) => (texts ++ [text], d)
      | (none, d) => (texts, d))
    ([], d)

end Debouncer
end Companions
