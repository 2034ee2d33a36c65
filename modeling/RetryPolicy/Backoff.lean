import RetryPolicy.Time.Span

/-!
# Backoff

The delay before a retry is a base delay taken some number of times. That number grows with the retries before it: not
at all, by one, by doubling or along the Fibonacci numbers, and stands at `2^32 - 1` when it would be more. A delay
stands at the longest span, and at the longest delay if one is set. After the last retry there is no delay.
-/

namespace RetryPolicy

/-- How a delay grows from one retry to the next. -/
inductive Growth where
  | constant | linear | exponential | fibonacci
  deriving DecidableEq

/-- The largest number of times that a base delay is taken. -/
def maxFactor : Nat := 0xffffffff

/-- Two Fibonacci numbers in a row, from the `n`-th on, each no more than `maxFactor`. -/
def fibonacciPair : Nat → Nat × Nat
  | 0 => (0, 1)
  | n + 1 => ((fibonacciPair n).2, min ((fibonacciPair n).1 + (fibonacciPair n).2) maxFactor)

/-- From this one on, the Fibonacci numbers are more than `maxFactor`. -/
def fibonacciCeiling : Nat := 48

/-- The `n`-th Fibonacci number, or `maxFactor` when that is less. -/
def fibonacciFactor (n : Nat) : Nat :=
  (fibonacciPair (min n fibonacciCeiling)).1

namespace Growth

/-- The name of the growth. -/
def name : Growth → String
  | constant => "constant"
  | linear => "linear"
  | exponential => "exponential"
  | fibonacci => "fibonacci"

/-- How often the base delay is taken after so many retries. -/
def factor (g : Growth) (retries : Nat) : Nat :=
  match g with
  | constant => 1
  | linear => min (retries + 1) maxFactor
  | exponential => if retries < 32 then Nat.pow 2 retries else maxFactor
  | fibonacci => fibonacciFactor (retries + 1)

end Growth

/-- How much a delay may be varied at random. The setting is kept for whoever does the waiting; delays here are
exact. -/
inductive Jitter where
  | none
  /-- By this part of the delay, from 0 to 1. -/
  | proportional (factor : Float)
  | full
  deriving BEq

namespace Jitter

/-- Variation by a part of the delay. The part is brought into the range from 0 to 1, and is 0 when it is no number. -/
def ofFactor (factor : Float) : Jitter :=
  if factor.isFinite then
    proportional (if factor < 0.0 then 0.0 else if 1.0 < factor then 1.0 else factor)
  else
    proportional 0.0

/-- The delay that is handed out for a delay. -/
def apply : Jitter → Span → Span
  | _, d => d

/-- There is no variation. -/
def isNone : Jitter → Bool
  | none => true
  | _ => false

end Jitter

/-- A schedule of delays. -/
structure Backoff where
  growth : Growth
  base : Span
  maxRetries : Option Nat := none
  maxDelay : Option Span := none
  jitter : Jitter := .none
  deriving BEq

/-- What is wrong with a schedule. -/
inductive BackoffError where
  /-- It goes on forever and its delays grow without a bound. -/
  | unbounded
  deriving DecidableEq

/-- The error in words. -/
def BackoffError.message : BackoffError → String
  | unbounded => "Backoff must have at least one bound (max_retries or max_delay)"

namespace Backoff

/-- The delay, or the longest one if that is set and less. -/
def cap (b : Backoff) (d : Span) : Span :=
  match b.maxDelay with
  | some m => min d m
  | none => d

/-- So many retries are all that the schedule has. -/
def isSpent (b : Backoff) (retries : Nat) : Bool :=
  match b.maxRetries with
  | some m => decide (m ≤ retries)
  | none => false

/-- The delay after so many retries. -/
def delay (b : Backoff) (retries : Nat) : Option Span :=
  if b.isSpent retries then none else some (b.cap (b.base.times (b.growth.factor retries)))

/-- The delay after so many retries, varied as the schedule says. -/
def variedDelay (b : Backoff) (retries : Nat) : Option Span :=
  (b.delay retries).map fun d => b.cap (b.jitter.apply d)

/-- The wait before an attempt, where the first attempt is number 1. -/
def waitBefore (b : Backoff) (attempt : Nat) : Option Millis :=
  (b.variedDelay (attempt - 1)).map Span.millis

/-- A schedule needs a last retry or a longest delay. -/
def validate (b : Backoff) : Except BackoffError Unit :=
  if b.maxRetries.isNone && b.maxDelay.isNone then .error .unbounded else .ok ()

end Backoff

end RetryPolicy
