import RetryPolicy.Text.Decimal
import RetryPolicy.Text.Quoted

/-!
# What an attempt came to

An attempt either fails before there is a response or is answered by one that was not good enough. Only a response can
carry a Retry-After header.
-/

namespace RetryPolicy

open Text

/-- What an attempt came to: an error or a response. -/
inductive Attempt (ρ ε : Type) where
  | failed (error : ε)
  | answered (response : ρ)
  deriving DecidableEq

namespace Attempt

variable {ρ ε α : Type}

/-- The attempt that gave a result. -/
def ofExcept : Except ε ρ → Attempt ρ ε
  | .error e => failed e
  | .ok r => answered r

/-- The attempt taken apart. -/
def elim (onError : ε → α) (onResponse : ρ → α) : Attempt ρ ε → α
  | failed e => onError e
  | answered r => onResponse r

/-- The error, if there is no response. -/
def error? : Attempt ρ ε → Option ε
  | failed e => some e
  | answered _ => none

/-- The response, if there is one. -/
def response? : Attempt ρ ε → Option ρ
  | failed _ => none
  | answered r => some r

/-- There is no response. -/
def hasFailed (a : Attempt ρ ε) : Bool :=
  a.error?.isSome

/-- There is a response. -/
def wasAnswered (a : Attempt ρ ε) : Bool :=
  a.response?.isSome

/-- An attempt that came to a text or a status, on one line. -/
def describe : Attempt UInt16 String → String
  | failed e => "Failure(" ++ quoted e ++ ")"
  | answered n => "Response(" ++ String.ofList (digits n.toNat) ++ ")"

end Attempt

end RetryPolicy
