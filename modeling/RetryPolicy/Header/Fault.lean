import RetryPolicy.Text.Decimal
import RetryPolicy.Text.Quoted
import RetryPolicy.Time.Calendar

/-!
# Why a header was refused

A header that has the shape of a format may still say something impossible. A `Fault` is the first impossible thing,
and `Fault.message` says it in one line. Names from the header are quoted there; the only text inserted as it stands
is that of `tooLong`, which holds digits and a point.
-/

namespace RetryPolicy

open Text

/-- What makes a header of the right shape unreadable. -/
inductive Fault where
  /-- The delay is too long to be held. -/
  | tooLong (text : String)
  | unknownMonth (name : String)
  | unknownWeekday (name : String)
  | unknownZone (name : String)
  /-- The month has no such day. -/
  | noSuchDate (year : Int) (month day : Nat)
  | noSuchTime (hour minute second : Nat)
  /-- The day of the week that is named is not that of the date. -/
  | wrongWeekday (named actual : Weekday)
  /-- An ISO-8601 date does not exist. -/
  | isoOutOfRange
  deriving DecidableEq

/-- The fault in words. -/
def Fault.message : Fault → String
  | tooLong text => "delay of " ++ text ++ " seconds is too large"
  | unknownMonth name => "unknown month " ++ quoted name
  | unknownWeekday name => "unknown day of week " ++ quoted name
  | unknownZone name => "unknown time zone " ++ quoted name
  | noSuchDate year month day =>
    "invalid date " ++ String.ofList (signedPadded 4 year) ++ "-" ++ String.ofList (padded 2 month) ++ "-"
      ++ String.ofList (padded 2 day)
  | noSuchTime hour minute second =>
    "invalid time " ++ String.ofList (padded 2 hour) ++ ":" ++ String.ofList (padded 2 minute) ++ ":"
      ++ String.ofList (padded 2 second)
  | wrongWeekday named actual =>
    named.abbreviation ++ " does not match the date, which is a " ++ actual.abbreviation
  | isoOutOfRange => "invalid ISO-8601 instant: input is out of range"

namespace Header

/-- What a text says in one format: nothing, when it has another shape, or else a value or a fault. -/
abbrev Reading (α : Type) := Option (Except Fault α)

/-- A value, or the fault that stands for its absence. -/
def orFault {α : Type} (value : Option α) (fault : Fault) : Except Fault α :=
  match value with
  | some a => .ok a
  | none => .error fault

theorem orFault_eq_ok_iff {α : Type} {value : Option α} {fault : Fault} {a : α} :
    orFault value fault = .ok a ↔ value = some a := by
  cases value <;> simp [orFault]

theorem orFault_eq_error_iff {α : Type} {value : Option α} {fault other : Fault} :
    orFault value fault = .error other ↔ value = none ∧ fault = other := by
  cases value <;> simp [orFault]

/-- Steps that may fail have a value when each of them has. -/
theorem bind_eq_ok_iff {α β : Type} {x : Except Fault α} {f : α → Except Fault β} {b : β} :
    (x >>= f) = .ok b ↔ ∃ a, x = .ok a ∧ f a = .ok b := by
  cases x <;> simp [bind, Except.bind]

/-- Steps fail at the first that does. -/
theorem bind_eq_error_iff {α β : Type} {x : Except Fault α} {f : α → Except Fault β} {fault : Fault} :
    (x >>= f) = .error fault ↔ x = .error fault ∨ ∃ a, x = .ok a ∧ f a = .error fault := by
  cases x <;> simp [bind, Except.bind]

/-- A value that is seen another way was read. -/
theorem map_eq_ok_iff {α β : Type} {reading : Reading α} {see : α → β} {b : β} :
    reading.map (·.map see) = some (.ok b) ↔ ∃ a, reading = some (.ok a) ∧ see a = b := by
  rcases reading with _ | fault | a
  · simp
  · simp [Except.map]
  · simp [Except.map]

/-- A fault is the same however the value would be seen. -/
theorem map_eq_error_iff {α β : Type} {reading : Reading α} {see : α → β} {fault : Fault} :
    reading.map (·.map see) = some (.error fault) ↔ reading = some (.error fault) := by
  rcases reading with _ | other | a
  · simp
  · simp [Except.map]
  · simp [Except.map]

end Header

end RetryPolicy
