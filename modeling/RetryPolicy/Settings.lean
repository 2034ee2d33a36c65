import RetryPolicy.Condition
import RetryPolicy.WaitRule

/-!
# Settings

A `Settings` is plain data that says how responses are treated: which statuses are retried, how long a header may ask
to wait and in which formats headers are read. From it come a condition for a retry and a rule for the wait.
-/

namespace RetryPolicy

/-- How responses are treated. -/
structure Settings where
  mode : Mode := .idempotent
  /-- The statuses that are retried beside the defaults of the mode. -/
  extraStatuses : List UInt16 := []
  /-- The longest wait that a header may ask for. -/
  maxWait : Option Millis := none
  preset : Preset := .extended
  deriving DecidableEq

namespace Settings

/-- The settings with a longest wait, which is rounded down to whole milliseconds. -/
def waitingAtMost (s : Settings) (d : Span) : Settings :=
  { s with maxWait := some d.millis }

/-- The table of the statuses that are retried. -/
def statusTable (s : Settings) : Except TableError StatusTable :=
  StatusTable.ofList s.mode s.extraStatuses

/-- The reader of the preset, at a clock time. -/
def reader (s : Settings) (now : ClockTime) : HeaderReader :=
  HeaderReader.ofPreset s.preset now

/-- The longest wait; there is always one, if only the longest span. -/
def maximum (s : Settings) : Span :=
  match s.maxWait with
  | some m => m.span
  | none => Span.longest

/-- The limit on waits, at a clock time. -/
def limit (s : Settings) (now : ClockTime) : WaitLimit :=
  ⟨s.maximum, s.reader now⟩

/-- The condition for a retry: the status is retried and the wait is within the limit. -/
def condition {τ : Type} (s : Settings) (now : ClockTime) : Except TableError (Condition τ) :=
  s.statusTable.map fun t => .and (.table t) (.limit (s.limit now))

/-- The rule for the wait: that of the base and the wait that a header asks for, whichever is longer. -/
def waitRule {ε : Type} (s : Settings) (base : WaitRule ε) (now : ClockTime) : WaitRule ε :=
  .honor base (s.reader now)

end Settings

end RetryPolicy
