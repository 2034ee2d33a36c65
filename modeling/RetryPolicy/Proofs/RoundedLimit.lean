import RetryPolicy.Proofs.LimitedWait

/-!
# A longest wait is kept in whole milliseconds

Settings keep their longest wait as a number of milliseconds. A span that is set as the longest wait is therefore rounded
down, and one with more milliseconds than fit stands at the largest number of them. The limit never permits more than the
span, but it refuses a wait between the span and its whole milliseconds, although that is within the span.
`limit_of_waitingAtMost` says which waits those are: they are less than a millisecond below the span, or beyond the
largest number of milliseconds.
-/

namespace RetryPolicy

namespace Settings

/-- A span as the longest wait permits what is within its whole milliseconds. -/
theorem value_permits_waitingAtMost_iff (s : Settings) (w : Span) (now : ClockTime) (r : Response) :
    (((s.waitingAtMost w).limit now).permits r).value = true ↔
      ∀ d ∈ ((s.reader now).waitOf r).value, d ≤ w.millis.span :=
  value_permits_limit_iff (s := s.waitingAtMost w) rfl now r

end Settings

namespace Span

/-- A wait within a span and over its whole milliseconds is near the end of the span, or there are more milliseconds than fit. -/
theorem nanos_lt_of_between {w d : Span} (hover : w.millis.span < d) :
    w.nanos < d.nanos + 1000000 ∨ Millis.largest.span < d := by
  by_cases hw : w ≤ Millis.largest.span
  · left
    have := nanos_lt_span_millis hw
    rw [lt_iff] at hover
    omega
  · right
    have hlargest : Millis.largest ≤ w.millis := le_millis_iff.2 (Nat.le_of_not_le hw)
    calc Millis.largest.span.nanos
      _ ≤ w.millis.span.nanos := Nat.mul_le_mul_right 1000000 hlargest
      _ < d.nanos := hover

end Span

namespace Settings

/-- A span as the longest wait permits the waits within its whole milliseconds, and so none that is longer than the span. It
permits exactly the waits within the span unless the header asks for one between the two; such a wait is less than a
millisecond below the span, or longer than the largest number of milliseconds. A span that is a number of milliseconds
permits exactly the waits within it. -/
theorem limit_of_waitingAtMost (s : Settings) (w : Span) (now : ClockTime) (r : Response) :
    ((((s.waitingAtMost w).limit now).permits r).value = true ↔
      ∀ d ∈ ((s.reader now).waitOf r).value, d ≤ w.millis.span) ∧
    ((((s.waitingAtMost w).limit now).permits r).value = true → ∀ d ∈ ((s.reader now).waitOf r).value, d ≤ w) ∧
    (((((s.waitingAtMost w).limit now).permits r).value = true ↔ ∀ d ∈ ((s.reader now).waitOf r).value, d ≤ w) ↔
      ∀ d ∈ ((s.reader now).waitOf r).value, ¬(w.millis.span < d ∧ d ≤ w)) ∧
    (∀ d ∈ ((s.reader now).waitOf r).value, w.millis.span < d → d ≤ w →
      w.nanos < d.nanos + 1000000 ∨ Millis.largest.span < d) ∧
    (w ≤ Millis.largest.span → w.nanos % 1000000 = 0 →
      ((((s.waitingAtMost w).limit now).permits r).value = true ↔ ∀ d ∈ ((s.reader now).waitOf r).value, d ≤ w)) := by
  have hrule := value_permits_waitingAtMost_iff s w now r
  have hle := w.span_millis_le
  refine ⟨hrule, ?_, ?_, ?_, ?_⟩
  · intro h d hd
    exact Nat.le_trans (hrule.1 h d hd) hle
  · rw [hrule]
    cases ((s.reader now).waitOf r).value with
    | none => simp
    | some d =>
      simp only [Option.mem_def, Option.some.injEq, forall_eq', Span.le_iff, Span.lt_iff] at hle ⊢
      omega
  · intro d _ hover _
    exact Span.nanos_lt_of_between hover
  · intro hw hwhole
    have hge := (Span.le_span_millis_iff hw).2 hwhole
    rw [hrule]
    exact ⟨fun h d hd => Nat.le_trans (h d hd) hle, fun h d hd => Nat.le_trans (h d hd) hge⟩

/-- A response that asks for two seconds. -/
def twoSecondsLater : Response := (SampleResponse.withRetryAfter ⟨503, []⟩ "2.0").view

/-- A longest wait of two seconds permits a header that asks for just that. -/
theorem two_seconds_permit_two_seconds :
    let now : ClockTime := ⟨0, 0, by decide, by decide, by decide⟩
    let w : Span := ⟨2000000000, by decide⟩
    w ≤ Millis.largest.span ∧ w.nanos % 1000000 = 0 ∧
      (((({} : Settings).waitingAtMost w).limit now).permits twoSecondsLater).value = true := by
  intro now w
  have hle : w ≤ Millis.largest.span := by decide
  have hwhole : w.nanos % 1000000 = 0 := by decide
  have hd : ((({} : Settings).reader now).waitOf twoSecondsLater).value = some w := by decide +kernel
  obtain ⟨-, -, -, -, permits_iff⟩ := limit_of_waitingAtMost {} w now twoSecondsLater
  refine ⟨hle, hwhole, (permits_iff hle hwhole).2 ?_⟩
  intro d hmem
  obtain rfl : w = d := Option.some.inj (hd.symm.trans hmem)
  exact Nat.le_refl _

/-- A response that asks to wait until 1.2 milliseconds after `2003-01-02T01:23:45Z`. -/
def millisecondLater : Response := (SampleResponse.withRetryAfter ⟨503, []⟩ "2003-01-02T01:23:45.001200Z").view

/-- A response that asks for more milliseconds than fit. -/
def agesLater : Response := (SampleResponse.withRetryAfter ⟨503, []⟩ "18446744073709552").view

/-- A longest wait of 1.5 milliseconds refuses a wait of 1.2, and the longest span of all refuses a wait within it. -/
theorem waitingAtMost_refuses_shorter_waits :
    let now : ClockTime := ⟨1041470625, 0, by decide, by decide, by decide⟩
    (∃ w d, (({} : Settings).reader now).waitOf millisecondLater = ⟨some d, []⟩ ∧ d ≤ w ∧
      (((({} : Settings).waitingAtMost w).limit now).permits millisecondLater).value = false) ∧
    ∃ d, (({} : Settings).reader now).waitOf agesLater = ⟨some d, []⟩ ∧ d ≤ Span.longest ∧
      (((({} : Settings).waitingAtMost Span.longest).limit now).permits agesLater).value = false := by
  refine ⟨⟨⟨1500000, by decide⟩, ⟨1200000, by decide⟩, ?_, ?_, ?_⟩, ⟨18446744073709552 * 1000000000, by decide⟩, ?_, ?_, ?_⟩
  · decide +kernel
  · decide
  · decide +kernel
  · decide +kernel
  · decide
  · decide +kernel

end Settings

end RetryPolicy
