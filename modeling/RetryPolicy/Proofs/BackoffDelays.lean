import Mathlib.Data.Nat.Fib.Basic
import RetryPolicy.WaitRule

/-!
# The delays of a backoff

A backoff has a ceiling at every width that it counts in: the base delay is taken `2^32 - 1` times at most, the product is no
longer than the longest span, and the wait is no more than `2^64 - 1` milliseconds. `Backoff.delays_follow_growth` says that it
is exact apart from these: a delay is the base delay multiplied as the growth says, cut off once at each ceiling and at the
longest delay that is set, and it is there until the retries are spent, whatever variation the schedule records.

Fibonacci numbers are added up with a cut at every step. A sum of two numbers that were cut off is cut off like the sum of the
two numbers, so the cuts along the way come to one cut at the end (`fibonacciPair_eq`).
-/

namespace RetryPolicy

/-! ## Factors -/

/-- Numbers that are cut off before they are added give the same as a sum that is cut off, if it is cut off as well. -/
theorem min_add_min_min (a b bound : ℕ) : min (min a bound + min b bound) bound = min (a + b) bound := by
  omega

/-- The two numbers are Fibonacci numbers in a row, each cut off at the largest factor. -/
theorem fibonacciPair_eq (n : ℕ) :
    fibonacciPair n = (min (Nat.fib n) maxFactor, min (Nat.fib (n + 1)) maxFactor) := by
  induction n with
  | zero => rfl
  | succ n ih => rw [fibonacciPair, ih, min_add_min_min, ← Nat.fib_add_two]

/-- From the forty-eighth on, the Fibonacci numbers are more than the largest factor. -/
theorem maxFactor_lt_fib {n : ℕ} (h : fibonacciCeiling ≤ n) : maxFactor < Nat.fib n := by
  have hceiling : maxFactor < Nat.fib fibonacciCeiling := by decide +kernel
  exact hceiling.trans_le (Nat.fib_mono h)

/-- A Fibonacci factor is the Fibonacci number, cut off at the largest factor, although those after the ceiling are not added
up. -/
theorem fibonacciFactor_eq (n : ℕ) : fibonacciFactor n = min (Nat.fib n) maxFactor := by
  rw [fibonacciFactor, fibonacciPair_eq]
  rcases Nat.le_total n fibonacciCeiling with h | h
  · rw [Nat.min_eq_left h]
  · rw [Nat.min_eq_right h, Nat.min_eq_right (maxFactor_lt_fib h).le, Nat.min_eq_right (maxFactor_lt_fib (Nat.le_refl _)).le]

namespace Growth

/-- How often the base delay would be taken after so many retries if no number were too large. -/
def multiple (g : Growth) (retries : ℕ) : ℕ :=
  match g with
  | constant => 1
  | linear => retries + 1
  | exponential => 2 ^ retries
  | fibonacci => Nat.fib (retries + 1)

/-- The base delay is taken as often as that, or as often as it can be. -/
theorem factor_eq (g : Growth) (retries : ℕ) : g.factor retries = min (g.multiple retries) (2 ^ 32 - 1) := by
  cases g with
  | constant => rfl
  | linear => rfl
  | exponential =>
    rw [factor, multiple]
    by_cases h : retries < 32
    · have hle : 2 ^ retries ≤ 2 ^ 31 := Nat.pow_le_pow_right (by decide) (by omega)
      rw [if_pos h, Nat.min_eq_left (by omega)]
      rfl
    · have hge : 2 ^ 32 ≤ 2 ^ retries := Nat.pow_le_pow_right (by decide) (by omega)
      rw [if_neg h, Nat.min_eq_right (by omega)]
      rfl
  | fibonacci => exact fibonacciFactor_eq (retries + 1)

end Growth

namespace Backoff

/-! ## Delays -/

/-- A delay that was capped is not changed by capping it again. -/
theorem cap_cap (b : Backoff) (d : Span) : b.cap (b.cap d) = b.cap d := by
  unfold cap
  cases b.maxDelay with
  | none => rfl
  | some m =>
    apply Span.ext
    rw [Span.nanos_min, Span.nanos_min, Nat.min_assoc, Nat.min_self]

/-- Delays are handed out as they are, whatever variation the schedule records. -/
theorem variedDelay_eq_delay (b : Backoff) (retries : ℕ) : b.variedDelay retries = b.delay retries := by
  have happly : ∀ d, b.jitter.apply d = d := fun _ => rfl
  rw [variedDelay, delay]
  split
  · rfl
  · rw [Option.map_some, happly, cap_cap]

/-- All retries are spent when there is a last one and it is behind. -/
theorem isSpent_iff (b : Backoff) (retries : ℕ) : b.isSpent retries = true ↔ ∃ m ∈ b.maxRetries, m ≤ retries := by
  unfold isSpent
  cases b.maxRetries with
  | none => simp
  | some m => simp

/-- The nanoseconds of a delay: the multiple of the base delay, no more than the longest span has, and no more than the longest
delay has if one is set. -/
def delayNanos (b : Backoff) (retries : ℕ) : ℕ :=
  let product := min (b.base.nanos * min (b.growth.multiple retries) (2 ^ 32 - 1)) (2 ^ 64 * 10 ^ 9 - 1)
  match b.maxDelay with
  | some longest => min product longest.nanos
  | none => product

theorem nanos_cap_times (b : Backoff) (retries : ℕ) :
    (b.cap (b.base.times (b.growth.factor retries))).nanos = b.delayNanos retries := by
  rw [Growth.factor_eq, cap, delayNanos]
  cases b.maxDelay with
  | none => exact Span.nanos_times _ _
  | some m => exact Span.nanos_min _ _

/-- The wait before an attempt is the delay after the retries before it; the first attempt is number 1, and number 0 has no
retries before it either. -/
theorem waitBefore_eq (b : Backoff) (attempt : ℕ) :
    b.waitBefore attempt = (b.delay (max attempt 1 - 1)).map Span.millis := by
  have hretries : max attempt 1 - 1 = attempt - 1 := by omega
  rw [waitBefore, variedDelay_eq_delay, hretries]

/-- The delays of a schedule. Once the retries are spent there is none; before that, the delay is the base delay taken as often
as the growth says, exact to the nanosecond unless the number of times is more than `2^32 - 1`, the product is longer than the
longest span or the delay is longer than the longest that is set. A variation that is recorded changes nothing. The rule that
waits by the schedule has a wait before an attempt, whatever the one before came to, exactly when there is a delay after the
retries before it, and the wait is the whole milliseconds of that delay, or `2^64 - 1` when there are more. -/
theorem delays_follow_growth {ε : Type} (b : Backoff) :
    (∀ retries,
      (b.delay retries).map Span.nanos =
          (if ∃ m ∈ b.maxRetries, m ≤ retries then none else some (b.delayNanos retries)) ∧
        b.variedDelay retries = b.delay retries) ∧
    ∀ (attempt : ℕ) (a : Attempt Response ε),
      ((WaitRule.backoff b).pause attempt a).millis.map Millis.count =
        (b.delay (max attempt 1 - 1)).map fun d => min (d.nanos / 10 ^ 6) (2 ^ 64 - 1) := by
  constructor
  · intro retries
    refine ⟨?_, b.variedDelay_eq_delay retries⟩
    rw [delay]
    by_cases h : b.isSpent retries = true
    · rw [if_pos h, if_pos ((b.isSpent_iff retries).1 h), Option.map_none]
    · rw [if_neg h, if_neg (mt (b.isSpent_iff retries).2 h), Option.map_some, nanos_cap_times]
  · intro attempt a
    rw [WaitRule.pause, waitBefore_eq, Option.map_map]
    exact congrArg (Option.map · _) (funext Span.count_millis)

end Backoff

end RetryPolicy
