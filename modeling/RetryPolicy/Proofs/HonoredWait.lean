import RetryPolicy.WaitRule

/-!
# What a layer makes of the wait in a header

A layer that honors headers is meant to wait at least as long as a header asks. It counts in whole milliseconds, rounded
down, and a header can ask for less than that: dates are measured from a clock with nanoseconds, and ISO-8601 dates may
have a fraction. So the wait can fall short, by less than a millisecond. `honored_wait_covers_iff` says exactly when it does
not: when the wait that is asked for is a whole number of milliseconds, or the rule inside the layer covers it.
-/

namespace RetryPolicy

namespace Pause

/-- The longer of two waits covers a span exactly when one of them does. -/
theorem le_span_longer_iff {base : Option Millis} {asked : Millis} {d : Span} :
    d ≤ (longer base asked).span ↔ d ≤ asked.span ∨ ∃ b ∈ base.map Millis.span, d ≤ b := by
  cases base with
  | none => simp [longer]
  | some b =>
    simp only [longer, Option.map_some, Option.mem_def, Option.some.injEq, exists_eq_left', Span.le_iff, Span.nanos_span,
      Millis.count_max]
    omega

end Pause

namespace WaitRule

variable {ε : Type}

/-- The wait of a layer for a header that asks for one. -/
theorem wait_honor {base : WaitRule ε} {reader : HeaderReader} {attempt : Nat} {r : Response} {d : Span}
    (hd : (reader.waitOf r).value = some d) :
    ((honor base reader).pause attempt (.answered r)).wait =
      some (Pause.longer (base.waitAfter attempt r) d.millis).span := by
  have h := waitAfter_honor base reader attempt r
  rw [hd] at h
  exact congrArg (Option.map Millis.span) h

/-- The wait of a layer covers the wait that the header asks for exactly when that is a whole number of milliseconds or the
rule inside the layer covers it; it falls short by less than a millisecond in every case. -/
theorem honored_wait_covers_iff (base : WaitRule ε) (reader : HeaderReader) (attempt : Nat) (r : Response) {d : Span}
    (hd : (reader.waitOf r).value = some d) (hle : d ≤ Millis.largest.span) :
    ∃ w, ((honor base reader).pause attempt (.answered r)).wait = some w ∧
      (d ≤ w ↔ d.nanos % 1000000 = 0 ∨ ∃ b ∈ (base.pause attempt (.answered r)).wait, d ≤ b) ∧
      d.nanos < w.nanos + 1000000 := by
  refine ⟨_, wait_honor hd, ?_, ?_⟩
  · rw [Pause.le_span_longer_iff, Span.le_span_millis_iff hle]
    rfl
  · have hge := Pause.le_longer (base.waitAfter attempt r) d.millis
    calc d.nanos
      _ < d.millis.span.nanos + 1000000 := Span.nanos_lt_span_millis hle
      _ ≤ (Pause.longer (base.waitAfter attempt r) d.millis).span.nanos + 1000000 :=
        Nat.add_le_add_right (Nat.mul_le_mul_right 1000000 hge) _

/-- A reader whose clock stands between two milliseconds, less than a second before the date of `datedResponse`. -/
def finelyClockedReader : HeaderReader :=
  HeaderReader.ofPreset .extended ⟨1041470624, 123456789, by decide, by decide, by decide⟩

/-- A response that asks to wait until `2003-01-02T01:23:45Z`. -/
def datedResponse : Response := (SampleResponse.withRetryAfter ⟨503, []⟩ "Thu, 02 Jan 2003 01:23:45 GMT").view

/-- Around a fixed wait of a second, the layer covers the 876.543211 milliseconds that are left until the date. -/
theorem honored_wait_covers_date :
    ∃ d, (finelyClockedReader.waitOf datedResponse).value = some d ∧ d ≤ Millis.largest.span ∧ d.nanos % 1000000 ≠ 0 ∧
      ∃ w, ((honor (fixed ⟨1000, by decide⟩ : WaitRule Empty) finelyClockedReader).pause 1 (.answered datedResponse)).wait =
        some w ∧ d ≤ w := by
  have hd : (finelyClockedReader.waitOf datedResponse).value = some ⟨876543211, by decide⟩ := by decide +kernel
  have hle : (⟨876543211, by decide⟩ : Span) ≤ Millis.largest.span := by decide
  obtain ⟨w, hw, hiff, -⟩ := honored_wait_covers_iff (fixed ⟨1000, by decide⟩ : WaitRule Empty) finelyClockedReader 1
    datedResponse hd hle
  exact ⟨_, hd, hle, by decide, w, hw, hiff.2 (.inr ⟨Millis.span ⟨1000, by decide⟩, rfl, by decide⟩)⟩

/-- Around no wait at all, the layer waits for 876 milliseconds and the retry comes before the date. -/
theorem honored_wait_falls_short :
    ∃ d w, (finelyClockedReader.waitOf datedResponse).value = some d ∧ d ≤ Millis.largest.span ∧
      ((honor (fixed ⟨0, by decide⟩ : WaitRule Empty) finelyClockedReader).pause 1 (.answered datedResponse)).wait =
        some w ∧ w < d := by
  refine ⟨⟨876543211, by decide⟩, ⟨876000000, by decide⟩, ?_, ?_, ?_, ?_⟩
  · decide +kernel
  · decide
  · decide +kernel
  · decide

end WaitRule

end RetryPolicy
