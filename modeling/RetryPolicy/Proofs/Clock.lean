import RetryPolicy.Header.Reader

/-!
# Waits and the clock

What a header asks for is found without a clock: only the last step, from a date to a wait, looks at one. So a reader that
finds a wait at one clock time finds one at every other. While the clock advances the wait does not grow, unless the clock
passes into a leap second or out of one in between (`BordersLeapSecond`); even then it grows by less than a second.
-/

namespace RetryPolicy

/-- From one clock time to the other the clock passes into a leap second within the same second, or out of one into the
next. -/
def ClockTime.BordersLeapSecond (now later : ClockTime) : Prop :=
  now.seconds = later.seconds ∧ ¬now.InLeapSecond ∧ later.InLeapSecond ∨ now.seconds + 1 = later.seconds ∧ now.InLeapSecond

instance (now later : ClockTime) : Decidable (now.BordersLeapSecond later) :=
  inferInstanceAs (Decidable (_ ∨ _))

section

variable {now later : ClockTime} (hn : now ≤ later)
include hn

namespace Instant

/-- An instant comes nearer while the clock advances, as long as it does not pass into a leap second or out of one. -/
theorem nanosSince_le_nanosSince (t : Instant) (hb : ¬now.BordersLeapSecond later) :
    t.clockTime.nanosSince later ≤ t.clockTime.nanosSince now := by
  have := now.nanos_lt
  have := later.nanos_lt
  rw [ClockTime.le_iff] at hn
  rw [nanosSince_clockTime_eq, nanosSince_clockTime_eq]
  unfold ClockTime.BordersLeapSecond ClockTime.InLeapSecond at hb
  unfold ClockTime.InLeapSecond ClockTime.secondOfDay ClockTime.total
  omega

/-- No leap second takes an instant a whole second further away while the clock advances. -/
theorem nanosSince_lt_nanosSince_add (t : Instant) :
    t.clockTime.nanosSince later < t.clockTime.nanosSince now + 1000000000 := by
  have := now.nanos_lt
  have := later.nanos_lt
  rw [ClockTime.le_iff] at hn
  rw [nanosSince_clockTime_eq, nanosSince_clockTime_eq]
  unfold ClockTime.InLeapSecond ClockTime.secondOfDay ClockTime.total
  omega

end Instant

/-- The wait for a heading does not grow while the clock advances, as long as it does not pass into a leap second or out of one:
a delay stays as it is and a date comes nearer. -/
theorem Heading.wait_le_wait (h : Heading) (hb : ¬now.BordersLeapSecond later) : h.wait later ≤ h.wait now := by
  cases h with
  | delay d => exact Nat.le_refl _
  | date t =>
    have hle := t.nanosSince_le_nanosSince hn hb
    rw [wait, wait, Span.le_iff, Instant.nanos_since, Instant.nanos_since]
    omega

/-- The wait for a heading grows by less than a second, whatever leap seconds the clock passes. -/
theorem Heading.wait_lt_wait_add (h : Heading) : (h.wait later).nanos < (h.wait now).nanos + 1000000000 := by
  cases h with
  | delay d => exact Nat.lt_add_of_pos_right (by decide)
  | date t =>
    have hlt := t.nanosSince_lt_nanosSince_add hn
    rw [wait, wait, Instant.nanos_since, Instant.nanos_since]
    omega

end

namespace HeaderReader

/-- A wait is the wait for what the header asks for. -/
theorem value_wait_eq_some_iff {reader : HeaderReader} {header : Option String} {d : Span} :
    (reader.wait header).value = some d ↔
      ∃ raw h, header = some raw ∧ (reader.heading raw).value = some h ∧ h.wait reader.now = d := by
  cases header with
  | none => simp [wait]
  | some raw => simp [wait]

/-- What a header asks for is found at every clock time alike. -/
theorem heading_at (formats : List Format) (now later : ClockTime) (raw : String) :
    (HeaderReader.mk formats now).heading raw = (HeaderReader.mk formats later).heading raw := rfl

/-- A wait that is found later was found before, and was no shorter then, apart from leap seconds. -/
theorem exists_wait_of_later {formats : List Format} {now later : ClockTime} (hn : now ≤ later) {header : Option String}
    {d : Span} (hd : ((HeaderReader.mk formats later).wait header).value = some d) :
    ∃ e, ((HeaderReader.mk formats now).wait header).value = some e ∧ d.nanos < e.nanos + 1000000000 ∧
      (¬now.BordersLeapSecond later → d ≤ e) := by
  obtain ⟨raw, h, rfl, hh, rfl⟩ := value_wait_eq_some_iff.1 hd
  refine ⟨h.wait now, ?_, h.wait_lt_wait_add hn, h.wait_le_wait hn⟩
  rw [heading_at formats later now] at hh
  exact value_wait_eq_some_iff.2 ⟨raw, h, rfl, hh, rfl⟩

end HeaderReader

end RetryPolicy
