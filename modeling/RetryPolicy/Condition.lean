import RetryPolicy.StatusTable
import RetryPolicy.WaitLimit

/-!
# Conditions for a retry

Status tables, limits and tests of the caller's own are joined by `and`, `or` and `not`. Evaluation runs from left to
right and skips a second operand that cannot matter, and the `Verdict` shows what ran: the labels of the caller's
tests and the events, each in the order of evaluation. The verdict itself is that of the Boolean formula
(`holdsFor_and`, `holdsFor_or`, `holdsFor_not`).
-/

namespace RetryPolicy

/-- A condition on a response. Tests of the caller's own carry a label. -/
inductive Condition (τ : Type) where
  | table (t : StatusTable)
  | limit (l : WaitLimit)
  | test (label : τ) (holds : Response → Bool)
  | and (p q : Condition τ)
  | or (p q : Condition τ)
  | not (p : Condition τ)

/-- What an evaluation came to and what ran during it. -/
structure Verdict (τ : Type) where
  holds : Bool
  trace : List τ
  events : List Event

namespace Verdict

variable {τ : Type}

/-- The verdict of a second evaluation, after all that ran in the first. -/
def andThen (v w : Verdict τ) : Verdict τ :=
  ⟨w.holds, v.trace ++ w.trace, v.events ++ w.events⟩

/-- The opposite verdict of the same evaluation. -/
def negate (v : Verdict τ) : Verdict τ :=
  { v with holds := !v.holds }

end Verdict

namespace Condition

variable {τ : Type}

/-- Whether the response meets the condition, and what ran to find it out. -/
def evaluate : Condition τ → Response → Verdict τ
  | table t, r => ⟨t.permits r, [], []⟩
  | limit l, r => ⟨(l.permits r).value, [], (l.permits r).events⟩
  | test label holds, r => ⟨holds r, [label], []⟩
  | and p q, r => if (p.evaluate r).holds then (p.evaluate r).andThen (q.evaluate r) else p.evaluate r
  | or p q, r => if (p.evaluate r).holds then p.evaluate r else (p.evaluate r).andThen (q.evaluate r)
  | not p, r => (p.evaluate r).negate

/-- The response meets the condition. -/
def holdsFor (p : Condition τ) (r : Response) : Bool :=
  (p.evaluate r).holds

@[simp] theorem holdsFor_table (t : StatusTable) (r : Response) :
    (table t : Condition τ).holdsFor r = t.permits r := rfl

@[simp] theorem holdsFor_limit (l : WaitLimit) (r : Response) :
    (limit l : Condition τ).holdsFor r = (l.permits r).value := rfl

@[simp] theorem holdsFor_test (label : τ) (holds : Response → Bool) (r : Response) :
    (test label holds).holdsFor r = holds r := rfl

@[simp] theorem holdsFor_and (p q : Condition τ) (r : Response) :
    (and p q).holdsFor r = (p.holdsFor r && q.holdsFor r) := by
  unfold holdsFor
  rw [evaluate]
  cases h : (p.evaluate r).holds <;> simp [Verdict.andThen, h]

@[simp] theorem holdsFor_or (p q : Condition τ) (r : Response) :
    (or p q).holdsFor r = (p.holdsFor r || q.holdsFor r) := by
  unfold holdsFor
  rw [evaluate]
  cases h : (p.evaluate r).holds <;> simp [Verdict.andThen, h]

@[simp] theorem holdsFor_not (p : Condition τ) (r : Response) : (not p).holdsFor r = !p.holdsFor r := rfl

/-- A limit after a table runs for the statuses that are retried, and for them alone. -/
theorem evaluate_table_and_limit (t : StatusTable) (l : WaitLimit) (r : Response) :
    (and (table t) (limit l) : Condition τ).evaluate r =
      if t.permits r then ⟨(l.permits r).value, [], (l.permits r).events⟩ else ⟨false, [], []⟩ := by
  unfold evaluate
  cases ht : t.permits r with
  | true => simp [evaluate, ht, Verdict.andThen]
  | false => simp [evaluate, ht]

end Condition

end RetryPolicy
