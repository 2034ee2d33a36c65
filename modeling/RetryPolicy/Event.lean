import RetryPolicy.Header.Fault
import RetryPolicy.Header.Format
import RetryPolicy.Time.Span

/-!
# Log events

Nothing here fails loudly: a header that cannot be read and a retry that is refused leave an `Event` behind. An event
holds what happened; `level`, `message` and `fields` are how a log shows it. A computation that logs returns a
`Logged` value, with its events in the order in which they happened.
-/

namespace RetryPolicy

open Text

/-- How much an event matters. -/
inductive Level where
  | warn | debug
  deriving DecidableEq

/-- Something a log is told. -/
inductive Event where
  /-- A header holds nothing but white space. -/
  | emptyHeader (raw : String)
  /-- A header is in none of the formats that were tried. -/
  | unrecognizedHeader (raw : String)
  /-- A header has the shape of a format and cannot be read in it. -/
  | unreadable (format : Format) (text : String) (fault : Fault)
  /-- A retry is refused because the wait is over the limit. -/
  | overLimit (wait limit : Millis)
  /-- The wait that a header asks for is joined with that of the rule inside. -/
  | honored (attempt : Nat) (asked : Millis) (base : Option Millis) (wait : Millis)
  deriving DecidableEq

namespace Event

/-- Trouble with a header is a warning. -/
def level : Event → Level
  | emptyHeader _ | unrecognizedHeader _ | unreadable .. => .warn
  | overLimit .. | honored .. => .debug

/-- The line that a log shows; text from a header is quoted. -/
def message : Event → String
  | emptyHeader raw => "received empty Retry-After header " ++ quoted raw
  | unrecognizedHeader raw => "received unrecognized Retry-After header " ++ quoted raw
  | unreadable _ text _ => "failed to parse Retry-After header " ++ quoted text
  | overLimit .. => "Retry-After exceeds limit"
  | honored .. => "heeding Retry-After"

/-- A number of milliseconds as a log shows it. -/
def millisText (m : Millis) : String :=
  String.ofList (digits m.count)

/-- A number of milliseconds that may be absent. -/
def optionalMillisText : Option Millis → String
  | none => "None"
  | some m => "Some(" ++ millisText m ++ ")"

/-- The named values beside the message. -/
def fields : Event → List (String × String)
  | emptyHeader _ | unrecognizedHeader _ => []
  | unreadable format _ fault => [("format", format.name), ("error", fault.message)]
  | overLimit wait limit => [("wait_ms", millisText wait), ("limit_ms", millisText limit)]
  | honored attempt asked base wait =>
    [("attempt", String.ofList (digits attempt)), ("retry_after_ms", millisText asked),
      ("base_ms", optionalMillisText base), ("wait_ms", millisText wait)]

/-- Lines that begin with different characters are different lines. -/
theorem append_ne_of_head? {first tail line : String} {c : Char} (hfirst : first.toList.head? = some c)
    (hline : line.toList.head? ≠ some c) : first ++ tail ≠ line := by
  rintro rfl
  apply hline
  rw [String.toList_append, List.head?_append, hfirst, Option.some_or]

/-- The line of a refusal is that of no other event. -/
theorem message_eq_exceeds_iff {e : Event} :
    e.message = "Retry-After exceeds limit" ↔ ∃ wait limit, e = overLimit wait limit := by
  constructor
  · intro h
    cases e with
    | overLimit wait limit => exact ⟨wait, limit, rfl⟩
    | emptyHeader raw => exact absurd h (append_ne_of_head? (c := 'r') (by decide) (by decide))
    | unrecognizedHeader raw => exact absurd h (append_ne_of_head? (c := 'r') (by decide) (by decide))
    | unreadable format text fault => exact absurd h (append_ne_of_head? (c := 'f') (by decide) (by decide))
    | honored attempt asked base wait =>
      have hne : "heeding Retry-After" ≠ "Retry-After exceeds limit" := by decide
      exact absurd h hne
  · rintro ⟨wait, limit, rfl⟩
    rfl

end Event

/-- A value and the events that finding it left behind, oldest first. -/
structure Logged (α : Type) where
  value : α
  events : List Event
  deriving DecidableEq

end RetryPolicy
