import Mathlib.Logic.Function.Iterate
import RetryPolicy.Proofs.BackoffDelays

/-!
# Fibonacci factors in words of 32 bits

The factors of a Fibonacci backoff are sums that outgrow any word. `fibonacciFactor` adds up natural numbers and stops at a
ceiling; here the same is done in words of 32 bits and to the end, round by round, where a sum of two words may wrap around. A
sum that has wrapped is noticed, and the largest word takes its place (`toNat_wordSum`). So the words stay in step with the
numbers that are cut off at the largest factor, whatever the number of rounds and whether one of the words, both or none stand
at the largest one already (`FibonacciWords.standsFor_after`). What comes out is the Fibonacci number wherever a word has room
for it, and the largest word from the forty-eighth on (`fibonacci_words_are_exact_or_largest`).
-/

namespace RetryPolicy

/-! ## Sums of words -/

/-- The sum of two words, or the largest word when the sum has no room. Such a sum wraps around, and comes out less than each of
the two. -/
def wordSum (a b : UInt32) : UInt32 :=
  if a + b < a then 0xffffffff else a + b

/-- The sum of two words is the sum of the numbers, cut off at the largest factor. -/
theorem toNat_wordSum (a b : UInt32) : (wordSum a b).toNat = min (a.toNat + b.toNat) maxFactor := by
  have ha := a.toNat_lt
  have hb := b.toNat_lt
  have hsum := UInt32.toNat_add a b
  -- a sum of two words wraps around once at most, and so it has wrapped exactly when it is less than the first of them
  unfold wordSum maxFactor
  split
  · rename_i hwrapped
    rw [UInt32.lt_iff_toNat_lt] at hwrapped
    show 0xffffffff = _
    omega
  · rename_i hexact
    rw [UInt32.lt_iff_toNat_lt] at hexact
    omega

/-! ## Rounds -/

/-- Two words that follow each other. -/
structure FibonacciWords where
  first : UInt32
  second : UInt32

namespace FibonacciWords

/-- The words before the first round. -/
def start : FibonacciWords := ⟨0, 1⟩

/-- One round: the second word moves up, and the sum of the two words takes its place. -/
def round (w : FibonacciWords) : FibonacciWords := ⟨w.second, wordSum w.first w.second⟩

/-- The words after so many rounds. -/
def after (rounds : ℕ) : FibonacciWords := round^[rounds] start

/-- The words are these two numbers. -/
def StandsFor (w : FibonacciWords) (p : ℕ × ℕ) : Prop :=
  w.first.toNat = p.1 ∧ w.second.toNat = p.2

/-- A round takes the words to the next pair of numbers. -/
theorem StandsFor.round {w : FibonacciWords} {n : ℕ} (h : w.StandsFor (fibonacciPair n)) :
    w.round.StandsFor (fibonacciPair (n + 1)) := by
  obtain ⟨hfirst, hsecond⟩ := h
  refine ⟨hsecond, ?_⟩
  rw [FibonacciWords.round, toNat_wordSum, hfirst, hsecond, fibonacciPair]

/-- The words after any number of rounds are the pair of numbers with that index. -/
theorem standsFor_after (rounds : ℕ) : (after rounds).StandsFor (fibonacciPair rounds) := by
  induction rounds with
  | zero => exact ⟨rfl, rfl⟩
  | succ n ih =>
    rw [after, Function.iterate_succ_apply']
    exact ih.round

end FibonacciWords

/-! ## The word that comes out -/

/-- The `n`-th word. Number 0 is there without a round, and each other is the second word after one round less than its number. -/
def fibonacciWord (n : UInt32) : UInt32 :=
  if n = 0 then 0 else (FibonacciWords.after (n.toNat - 1)).second

theorem toNat_fibonacciWord (n : UInt32) : (fibonacciWord n).toNat = min (Nat.fib n.toNat) maxFactor := by
  unfold fibonacciWord
  split
  · rename_i hzero
    rw [hzero]
    rfl
  · rename_i hne
    have hpos : n.toNat - 1 + 1 = n.toNat := by
      rw [← UInt32.toNat_inj, UInt32.toNat_zero] at hne
      omega
    -- the second of the words is one ahead of the rounds
    rw [(FibonacciWords.standsFor_after _).2, fibonacciPair_eq, hpos]

/-- Below the ceiling there is room for a Fibonacci number, and to spare. -/
theorem fib_lt_maxFactor {n : ℕ} (h : n < fibonacciCeiling) : Nat.fib n < maxFactor := by
  have hlast : Nat.fib 47 < maxFactor := by decide +kernel
  exact (Nat.fib_mono (Nat.le_of_lt_succ h)).trans_lt hlast

/-- A Fibonacci number that is cut off is still exact below the ceiling and at no other place. -/
theorem min_fib_eq_fib_iff (n : ℕ) : min (Nat.fib n) maxFactor = Nat.fib n ↔ n < fibonacciCeiling := by
  constructor
  · intro h
    by_contra hn
    have := maxFactor_lt_fib (Nat.le_of_not_lt hn)
    omega
  · intro h
    exact Nat.min_eq_left (fib_lt_maxFactor h).le

/-- A Fibonacci number that is cut off is the largest factor from the ceiling on and at no other place. -/
theorem min_fib_eq_maxFactor_iff (n : ℕ) : min (Nat.fib n) maxFactor = maxFactor ↔ fibonacciCeiling ≤ n := by
  constructor
  · intro h
    by_contra hn
    have := fib_lt_maxFactor (Nat.lt_of_not_le hn)
    omega
  · intro h
    exact Nat.min_eq_right (maxFactor_lt_fib h).le

/-- The `n`-th word is the `n`-th Fibonacci number, or `2^32 - 1` when that is less, and the factor of a backoff is the same
number. The words never decrease. They are exact up to number 47 and at no later place, and the largest word from number 48 on
and at no earlier place. After every round on the way, each of the two words is a Fibonacci number that was cut off once: no sum
that has wrapped around goes into another. -/
theorem fibonacci_words_are_exact_or_largest (n : UInt32) :
    (fibonacciWord n).toNat = min (Nat.fib n.toNat) (2 ^ 32 - 1) ∧
      fibonacciFactor n.toNat = (fibonacciWord n).toNat ∧
      (∀ m ≤ n, fibonacciWord m ≤ fibonacciWord n) ∧
      ((fibonacciWord n).toNat = Nat.fib n.toNat ↔ n < 48) ∧
      (fibonacciWord n = 0xffffffff ↔ 48 ≤ n) ∧
      ∀ rounds, let w := FibonacciWords.after rounds
        w.first.toNat = min (Nat.fib rounds) (2 ^ 32 - 1) ∧ w.second.toNat = min (Nat.fib (rounds + 1)) (2 ^ 32 - 1) := by
  have hword := toNat_fibonacciWord
  refine ⟨hword n, ?_, ?_, ?_, ?_, ?_⟩
  · rw [fibonacciFactor_eq, hword]
  · intro m hm
    rw [UInt32.le_iff_toNat_le, hword, hword]
    exact min_le_min_right maxFactor (Nat.fib_mono hm)
  · rw [hword, UInt32.lt_iff_toNat_lt]
    exact min_fib_eq_fib_iff n.toNat
  · rw [← UInt32.toNat_inj, hword, UInt32.le_iff_toNat_le]
    exact min_fib_eq_maxFactor_iff n.toNat
  · intro rounds
    have hafter := FibonacciWords.standsFor_after rounds
    rw [fibonacciPair_eq] at hafter
    exact hafter

/-- The last exact word is not above the first one that is cut off. -/
theorem forty_seventh_word_is_last_exact :
    (47 : UInt32) ≤ 48 ∧ fibonacciWord 47 ≤ fibonacciWord 48 ∧ (fibonacciWord 47).toNat = Nat.fib 47 ∧
      Nat.fib 47 = 2971215073 ∧ fibonacciWord 48 = 0xffffffff := by
  have hle : (47 : UInt32) ≤ 48 := by decide
  obtain ⟨-, -, -, exact_iff, -, -⟩ := fibonacci_words_are_exact_or_largest 47
  obtain ⟨-, -, mono, -, largest_iff, -⟩ := fibonacci_words_are_exact_or_largest 48
  exact ⟨hle, mono 47 hle, exact_iff.2 (by decide), by decide +kernel, largest_iff.2 (by decide)⟩

end RetryPolicy
