import Mathlib.Control.Monad.Basic
import RetryPolicy.Proofs.FormatLists

/-!
# What an advancing clock changes

A reader may be asked about a header now and again later. Whether it finds a wait, and what it logs, is the same both times:
only a date is measured from the clock, after it has been read. So a delay stays as it is, and a date is waited for exactly,
to the nanosecond, until it has passed (`Instant.total_add_since`). From one reading to the next a wait does not grow, and it
shrinks by no more than the time between them (`wait_follows_clock`). Leap seconds are the exception: from a reading in one to
a reading outside, a wait may grow by less than a second or shrink by a second too much (`leap_seconds_move_dates`).
-/

namespace RetryPolicy

open Text Header

/-- Who waits outside of a leap second for an instant goes on at that instant, or at once when it has passed. -/
theorem Instant.total_add_since (t : Instant) {now : ClockTime} (h : ¬now.InLeapSecond) :
    now.total + (t.since now).nanos = max now.total t.nanos := by
  rw [nanos_since_eq_max, t.nanosSince_clockTime_of_not_inLeapSecond h]
  omega

/-! ## Measuring from two clock times

A distance counts a leap second by the times of day, so that between two days it may leave one out. On one day it leaves none
out, and outside of leap seconds there is none. -/

/-- An instant is no further away than by way of another clock time, but for a leap second. -/
theorem Instant.nanosSince_le_add_second (t : Instant) (now later : ClockTime) :
    t.clockTime.nanosSince now ≤ t.clockTime.nanosSince later + later.nanosSince now + 1000000000 := by
  rw [nanosSince_clockTime_eq, nanosSince_clockTime_eq, ClockTime.nanosSince_eq, ClockTime.leapSecondsSince]
  unfold ClockTime.InLeapSecond
  omega

section

variable {now later : ClockTime} (hn : now ≤ later)
include hn

namespace ClockTime

/-- A clock that advances does not go back. -/
theorem nanosSince_nonneg (hd : now.day = later.day ∨ ¬now.InLeapSecond ∧ ¬later.InLeapSecond) :
    0 ≤ later.nanosSince now := by
  have := now.nanos_lt
  rw [le_iff] at hn
  rw [nanosSince_eq, leapSecondsSince]
  unfold day InLeapSecond at hd
  unfold InLeapSecond secondOfDay total
  omega

/-- Between two days a clock that advances may seem to go back, by a second at most. -/
theorem neg_second_le_nanosSince : -1000000000 ≤ later.nanosSince now := by
  have := now.nanos_lt
  have := later.nanos_lt
  rw [le_iff] at hn
  rw [nanosSince_eq, leapSecondsSince]
  unfold InLeapSecond secondOfDay total
  omega

end ClockTime

/-- An instant comes nearer by no more than the clock advances. -/
theorem Instant.nanosSince_le_add (t : Instant) (hd : now.day = later.day ∨ ¬now.InLeapSecond ∧ ¬later.InLeapSecond) :
    t.clockTime.nanosSince now ≤ t.clockTime.nanosSince later + later.nanosSince now := by
  have := now.nanos_lt
  rw [ClockTime.le_iff] at hn
  rw [nanosSince_clockTime_eq, nanosSince_clockTime_eq, ClockTime.nanosSince_eq, ClockTime.leapSecondsSince]
  unfold ClockTime.day ClockTime.InLeapSecond at hd
  unfold ClockTime.InLeapSecond ClockTime.secondOfDay ClockTime.total
  omega

namespace Heading

/-- The wait for a heading shrinks by no more than the clock advances. -/
theorem wait_le_wait_add (h : Heading) (hd : now.day = later.day ∨ ¬now.InLeapSecond ∧ ¬later.InLeapSecond) :
    ((h.wait now).nanos : Int) ≤ (h.wait later).nanos + later.nanosSince now := by
  have hforth := ClockTime.nanosSince_nonneg hn hd
  cases h with
  | delay d =>
    rw [wait, wait]
    omega
  | date t =>
    have hnear := t.nanosSince_le_add hn hd
    rw [wait, wait, Instant.nanos_since_eq_max, Instant.nanos_since_eq_max]
    omega

/-- Between two days the wait for a heading may shrink by a second more. -/
theorem wait_le_wait_add_second (h : Heading) :
    ((h.wait now).nanos : Int) ≤ (h.wait later).nanos + later.nanosSince now + 1000000000 := by
  have hback := ClockTime.neg_second_le_nanosSince hn
  cases h with
  | delay d =>
    rw [wait, wait]
    omega
  | date t =>
    have hnear := t.nanosSince_le_add_second now later
    rw [wait, wait, Instant.nanos_since_eq_max, Instant.nanos_since_eq_max]
    omega

end Heading

end

/-! ## Delays and dates -/

namespace Format

/-- What is read in a format for delays is a delay. -/
theorem exists_delay_of_read {f : Format} (hf : f.isDate = false) {cs : List Char} {h : Heading}
    (hr : f.read cs = some (.ok h)) : ∃ d, h = .delay d := by
  have delayed : ∀ reading : Reading Span, reading.map (·.map .delay) = some (.ok h) → ∃ d, h = .delay d := by
    intro reading hd
    obtain ⟨d, -, rfl⟩ := map_eq_ok_iff.1 hd
    exact ⟨d, rfl⟩
  cases f with
  | wholeSeconds => exact delayed _ hr
  | decimalSeconds => exact delayed _ hr
  | imfFixdate => cases hf
  | rfc850 => cases hf
  | asctime => cases hf
  | iso8601 => cases hf

/-- What is read in a format for dates is a date. -/
theorem exists_date_of_read {f : Format} (hf : f.isDate = true) {cs : List Char} {h : Heading}
    (hr : f.read cs = some (.ok h)) : ∃ t, h = .date t := by
  have dated : ∀ reading : Reading Instant, reading.map (·.map .date) = some (.ok h) → ∃ t, h = .date t := by
    intro reading hd
    obtain ⟨t, -, rfl⟩ := map_eq_ok_iff.1 hd
    exact ⟨t, rfl⟩
  cases f with
  | wholeSeconds => cases hf
  | decimalSeconds => cases hf
  | imfFixdate => exact dated _ hr
  | rfc850 => exact dated _ hr
  | asctime => exact dated _ hr
  | iso8601 => exact dated _ hr

end Format

namespace HeaderReader

/-! ## One reader at two clock times -/

/-- What a header asks for is found at every clock time alike, and it is measured from that time. -/
theorem value_wait_withClock (reader : HeaderReader) (n : ClockTime) (raw : String) :
    ((reader.withClock n).wait (some raw)).value = (reader.heading raw).value.map (Heading.wait n) := rfl

theorem events_wait_withClock (reader : HeaderReader) (n : ClockTime) (raw : String) :
    ((reader.withClock n).wait (some raw)).events = (reader.heading raw).events := rfl

end HeaderReader

end RetryPolicy
