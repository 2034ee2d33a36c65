import RetryPolicy.Attempt
import RetryPolicy.Backoff
import RetryPolicy.Header.Reader

/-!
# How long to wait before an attempt

A `WaitRule` is a fixed wait, a backoff schedule or a function of the caller's own, perhaps inside layers that honor
the Retry-After header: such a layer waits for the rule inside it or for the header, whichever is longer. The rule
inside a layer always runs, and runs first. A rule may abstain. The `Pause` that it asks for shows what ran: the calls
of a function of the caller's own, and the events.
-/

namespace RetryPolicy

/-- A rule for the wait before an attempt. -/
inductive WaitRule (ε : Type) where
  /-- The same wait each time. -/
  | fixed (m : Millis)
  | backoff (b : Backoff)
  /-- A function of the attempt's number and of what the attempt before it came to. -/
  | custom (f : Nat → Attempt Response ε → Option Millis)
  /-- At least the wait that a response asks for. -/
  | honor (base : WaitRule ε) (reader : HeaderReader)

/-- The wait that a rule asks for, and what ran to find it. -/
structure Pause (ε : Type) where
  millis : Option Millis
  /-- The arguments with which a function of the caller's own was called. -/
  calls : List (Nat × Attempt Response ε)
  events : List Event

namespace Pause

variable {ε : Type}

/-- The wait as a length of time. -/
def wait (p : Pause ε) : Option Span :=
  p.millis.map Millis.span

/-- The longer of a wait that may be absent and one that a header asks for. -/
def longer (base : Option Millis) (asked : Millis) : Millis :=
  match base with
  | some b => max b asked
  | none => asked

/-- The pause of a layer: the pause inside it, and what its reader finds in the response. -/
def honoring (inner : Pause ε) (attempt : Nat) (asked : Logged (Option Span)) : Pause ε :=
  match asked with
  | ⟨some d, events⟩ =>
    let wait := longer inner.millis d.millis
    ⟨some wait, inner.calls, inner.events ++ events ++ [.honored attempt d.millis inner.millis wait]⟩
  | ⟨none, events⟩ => ⟨inner.millis, inner.calls, inner.events ++ events⟩

/-- The longer of two waits is one of them. -/
theorem longer_eq_or (base : Option Millis) (asked : Millis) :
    some (longer base asked) = base ∨ longer base asked = asked := by
  cases base with
  | none => exact .inr rfl
  | some b =>
    rcases Std.MaxEqOr.max_eq_or b asked with h | h
    · exact .inl (congrArg some h)
    · exact .inr h

theorem le_longer (base : Option Millis) (asked : Millis) : asked ≤ longer base asked := by
  cases base with
  | none => exact Nat.le_refl _
  | some b =>
    rw [Millis.le_iff, longer, Millis.count_max]
    exact Nat.le_max_right _ _

theorem le_longer_of_mem {base : Option Millis} {b : Millis} (hb : b ∈ base) (asked : Millis) :
    b ≤ longer base asked := by
  cases hb
  rw [Millis.le_iff, longer, Millis.count_max]
  exact Nat.le_max_left _ _

end Pause

namespace WaitRule

variable {ε : Type}

/-- The wait when nothing else is said: half a second. -/
def defaultWait : Span := ⟨500 * 1000000, by decide⟩

/-- A fixed wait, rounded down to whole milliseconds. -/
def ofSpan (d : Span) : WaitRule ε := fixed d.millis

/-- A rule that never has a wait. -/
def abstain : WaitRule ε := custom fun _ _ => none

/-- A wait that grows with the number of the attempt. -/
def scaled (step : Millis) : WaitRule ε :=
  custom fun attempt _ => some (Millis.clamp (attempt * step.count))

/-- A wait after a failure alone. -/
def failuresOnly (m : Millis) : WaitRule ε :=
  custom fun _ a => if a.hasFailed then some m else none

/-- A layer that reads headers in every format. -/
def honoring (base : WaitRule ε) (now : ClockTime) : WaitRule ε :=
  honor base (HeaderReader.ofPreset .extended now)

/-- What a header asks for in any format, and so long at least. -/
def atLeast (d : Span) (now : ClockTime) : WaitRule ε :=
  honoring (ofSpan d) now

/-- The pause before an attempt, given what the one before it came to. -/
def pause : WaitRule ε → Nat → Attempt Response ε → Pause ε
  | fixed m, _, _ => ⟨some m, [], []⟩
  | backoff b, attempt, _ => ⟨b.waitBefore attempt, [], []⟩
  | custom f, attempt, a => ⟨f attempt a, [(attempt, a)], []⟩
  | honor base reader, attempt, a =>
    match a with
    | .failed _ => base.pause attempt a
    | .answered r => (base.pause attempt a).honoring attempt (reader.waitOf r)

/-- The wait before an attempt when the one before it was answered. -/
def waitAfter (rule : WaitRule ε) (attempt : Nat) (r : Response) : Option Millis :=
  (rule.pause attempt (.answered r)).millis

/-- A layer waits for the longer of the rule inside it and the header; where there is no wait in the header it changes
nothing. -/
theorem waitAfter_honor (base : WaitRule ε) (reader : HeaderReader) (attempt : Nat) (r : Response) :
    (honor base reader).waitAfter attempt r =
      match (reader.waitOf r).value with
      | some d => some (Pause.longer (base.waitAfter attempt r) d.millis)
      | none => base.waitAfter attempt r := by
  unfold waitAfter
  rw [pause]
  rcases reader.waitOf r with ⟨_ | d, events⟩
  · rfl
  · rfl

end WaitRule

end RetryPolicy
