import RetryPolicy.Settings

/-!
# Deciding after each attempt

A `Policy` is a condition for a retry and a rule for the wait before it. After each attempt it decides whether the
response is worth another and how long to wait for it. The condition does not run on a failure, which has no response.
Attempts are numbered from 1.
-/

namespace RetryPolicy

/-- A condition for a retry and a rule for the wait before it. -/
structure Policy (ε : Type) where
  condition : Condition Empty
  waitRule : WaitRule ε

/-- What was decided after an attempt. -/
structure Decision (ε : Type) where
  /-- Whether the response is worth a retry, if there is a response. -/
  retry : Option Bool
  /-- What the condition left behind. -/
  events : List Event
  pause : Pause ε

namespace Policy

variable {ε : Type}

/-- The policy of settings around a base rule, at a clock time. -/
def ofSettings (s : Settings) (base : WaitRule ε) (now : ClockTime) : Except TableError (Policy ε) :=
  (s.condition now).map fun condition => ⟨condition, s.waitRule base now⟩

/-- The decision after an attempt. -/
def afterAttempt (p : Policy ε) (number : Nat) (a : Attempt Response ε) : Decision ε :=
  let pause := p.waitRule.pause number a
  match a with
  | .failed _ => ⟨none, [], pause⟩
  | .answered r => ⟨some (p.condition.evaluate r).holds, (p.condition.evaluate r).events, pause⟩

/-- The decisions after attempts from number `first` on. -/
def decisions (p : Policy ε) (first : Nat) : List (Attempt Response ε) → List (Decision ε)
  | [] => []
  | a :: as => p.afterAttempt first a :: p.decisions (first + 1) as

end Policy

end RetryPolicy
