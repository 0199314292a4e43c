import Companions.Number.Integer

/-! Instants of the calendar, and their dates. -/
namespace Companions

/-- An instant in milliseconds since the start of 1970, between the years -262143 and 262142. -/
structure Moment where
  millis : Int
  first_le : -8334601228800000 ≤ millis
  le_last : millis ≤ 8210266876799999
  deriving DecidableEq

namespace Moment

def ofMillis? (n : Int) : Option Moment :=
  if h : -8334601228800000 ≤ n ∧ n ≤ 8210266876799999 then some ⟨n, h.1, h.2⟩ else none

/-- The month (January is 1) and the day of the month. The count of days starts with March, so that
the leap day ends a year; 400 years have 146097 days. -/
def monthAndDay (t : Moment) : Nat × Nat :=
  let days := t.millis.fdiv 86400000 + 719468
  let dayOfEra := (days.fmod 146097).toNat
  let yearOfEra := (dayOfEra - dayOfEra / 1460 + dayOfEra / 36524 - dayOfEra / 146096) / 365
  let dayOfYear := dayOfEra - (365 * yearOfEra + yearOfEra / 4 - yearOfEra / 100)
  let month := (5 * dayOfYear + 2) / 153
  let day := dayOfYear - (153 * month + 2) / 5 + 1
  (if month < 10 then month + 3 else month - 9, day)

def monthName : Nat → String
  | 1 => "Jan" | 2 => "Feb" | 3 => "Mar" | 4 => "Apr" | 5 => "May" | 6 => "Jun"
  | 7 => "Jul" | 8 => "Aug" | 9 => "Sep" | 10 => "Oct" | 11 => "Nov" | _ => "Dec"

/-- The month's name and the day in two digits. -/
def date (t : Moment) : String :=
  let (month, day) := t.monthAndDay
  monthName month ++ " " ++ (if day < 10 then "0" else "") ++ toString day

/-- How long ago `at?` is, seen from `now`: the largest whole unit below a week, and the date from
then on. What lies ahead, or less than a minute back, is now. -/
def ago (at? : Option Moment) (now : Moment) : String :=
  match at? with
  | none => ""
  | some t =>
    let seconds := (now.millis - t.millis).tdiv 1000
    if seconds < 60 then "now"
    else if seconds < 3600 then toString (seconds / 60) ++ "m"
    else if seconds < 86400 then toString (seconds / 3600) ++ "h"
    else if seconds < 604800 then toString (seconds / 86400) ++ "d"
    else t.date

end Moment
end Companions
