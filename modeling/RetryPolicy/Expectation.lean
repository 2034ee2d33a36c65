import RetryPolicy.Condition

/-!
# Expectations in tests

A test states that a condition holds for a response made by hand, or that it does not. An `ExpectationError` says
which of the two was wrong, and shows the response.
-/

namespace RetryPolicy

/-- An expectation that was not met. -/
inductive ExpectationError where
  /-- A retry was expected and the condition refuses it. -/
  | refused (r : SampleResponse)
  /-- No retry was expected and the condition asks for one. -/
  | retried (r : SampleResponse)
  deriving DecidableEq

/-- The error in words. -/
def ExpectationError.message : ExpectationError → String
  | refused r => "Expected retry, got no retry for " ++ r.describe
  | retried r => "Expected no retry, got retry for " ++ r.describe

namespace Condition

variable {τ : Type}

/-- The condition asks for a retry of the response. -/
def expectRetry (p : Condition τ) (r : SampleResponse) : Except ExpectationError Unit :=
  if p.holdsFor r.view then .ok () else .error (.refused r)

/-- The condition asks for no retry of the response. -/
def expectNoRetry (p : Condition τ) (r : SampleResponse) : Except ExpectationError Unit :=
  if p.holdsFor r.view then .error (.retried r) else .ok ()

end Condition

end RetryPolicy
