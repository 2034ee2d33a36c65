import RetryPolicy.Time.Instant
import RetryPolicy.Time.Span

/-!
# What a clock shows

A `ClockTime` is what a clock shows in universal time: the whole seconds since the start of 1970, leap seconds not counted,
and the nanoseconds after them. In a leap second the second before goes on, and its nanoseconds run past `1000000000`.
The distance of two clock times is that of their days and that of their times of day. The times of day count a leap second
when the earlier of them lies in it, the days count none, and so a distance is the plain difference or a second off it
(`nanosSince_eq`). The wait until an instant is measured from a clock time (`Instant.since`): it is zero for an instant
that has passed and the whole distance otherwise.
-/

namespace RetryPolicy

/-- What a clock shows in universal time. -/
structure ClockTime where
  /-- Whole seconds since the start of 1970. -/
  seconds : Int
  /-- The nanoseconds after them, which go on for another second in a leap second. -/
  nanos : Nat
  le_seconds : -0x8000000000000000 ≤ seconds
  seconds_lt : seconds < 0x8000000000000000
  nanos_lt : nanos < 2000000000
  deriving DecidableEq

namespace ClockTime

/-- So many seconds after the start of 1970 and so many nanoseconds after that. A leap second ends a minute. -/
def ofUnix? (seconds : Int) (nanos : Nat) : Option ClockTime :=
  if h : (-0x8000000000000000 ≤ seconds ∧ seconds < 0x8000000000000000) ∧ nanos < 2000000000 then
    if nanos < 1000000000 ∨ seconds % 60 = 59 then some ⟨seconds, nanos, h.1.1, h.1.2, h.2⟩ else none
  else
    none

instance : LE ClockTime :=
  ⟨fun a b => a.seconds < b.seconds ∨ a.seconds = b.seconds ∧ a.nanos ≤ b.nanos⟩

instance (a b : ClockTime) : Decidable (a ≤ b) :=
  inferInstanceAs (Decidable (a.seconds < b.seconds ∨ a.seconds = b.seconds ∧ a.nanos ≤ b.nanos))

theorem le_iff (a b : ClockTime) : a ≤ b ↔ a.seconds < b.seconds ∨ a.seconds = b.seconds ∧ a.nanos ≤ b.nanos := Iff.rfl

/-- The clock is in a leap second. -/
def InLeapSecond (c : ClockTime) : Prop :=
  1000000000 ≤ c.nanos

instance (c : ClockTime) : Decidable c.InLeapSecond :=
  inferInstanceAs (Decidable (1000000000 ≤ c.nanos))

/-- The number of days since the first of January 1970. -/
def day (c : ClockTime) : Int := c.seconds / 86400

/-- The whole seconds since midnight. -/
def secondOfDay (c : ClockTime) : Int := c.seconds % 86400

/-- The nanoseconds since the start of 1970, without the leap seconds that have ended. -/
def total (c : ClockTime) : Int := c.seconds * 1000000000 + c.nanos

/-! ## Distances -/

/-- The leap second from the time of day of `b` to that of `a`: the one that the earlier of them lies in, counted backwards when
that is the one of `a`. -/
def leapSecondsSince (a b : ClockTime) : Int :=
  if b.secondOfDay < a.secondOfDay ∧ b.InLeapSecond then 1
  else if a.secondOfDay < b.secondOfDay ∧ a.InLeapSecond then -1
  else 0

/-- The nanoseconds from the midnight before `b` to the midnight before `a`. -/
def dayNanosSince (a b : ClockTime) : Int :=
  (a.day - b.day) * 86400 * 1000000000

/-- The nanoseconds from the time of day of `b` to that of `a`. -/
def timeNanosSince (a b : ClockTime) : Int :=
  (a.secondOfDay - b.secondOfDay + a.leapSecondsSince b) * 1000000000 + (a.nanos - b.nanos)

/-- The nanoseconds from `b` to `a`, fewer than none when `a` is the earlier. -/
def nanosSince (a b : ClockTime) : Int :=
  a.dayNanosSince b + a.timeNanosSince b

/-- A distance is the plain difference, with the leap second between the times of day. -/
theorem nanosSince_eq (a b : ClockTime) :
    a.nanosSince b = a.total - b.total + a.leapSecondsSince b * 1000000000 := by
  unfold nanosSince dayNanosSince timeNanosSince total day secondOfDay
  omega

end ClockTime

/-! ## Instants on a clock -/

namespace Instant

/-- What a clock shows at the instant. -/
def clockTime (t : Instant) : ClockTime where
  seconds := t.seconds
  nanos := t.subsecond
  le_seconds := by
    have := t.le_nanos
    unfold seconds
    omega
  seconds_lt := by
    have := t.nanos_lt
    unfold seconds
    omega
  nanos_lt := by
    unfold subsecond
    omega

@[simp] theorem total_clockTime (t : Instant) : t.clockTime.total = t.nanos := by
  simp only [ClockTime.total, clockTime, seconds, subsecond]
  omega

/-- No instant lies in a leap second. -/
theorem not_inLeapSecond_clockTime (t : Instant) : ¬t.clockTime.InLeapSecond := by
  simp only [ClockTime.InLeapSecond, clockTime, subsecond]
  omega

/-- The distance of an instant counts the leap second that the clock is in, if its time of day is the earlier. -/
theorem nanosSince_clockTime_eq (t : Instant) (now : ClockTime) :
    t.clockTime.nanosSince now = t.nanos - now.total +
      if now.secondOfDay < t.clockTime.secondOfDay ∧ now.InLeapSecond then 1000000000 else 0 := by
  rw [ClockTime.nanosSince_eq, total_clockTime, ClockTime.leapSecondsSince]
  have hleap := t.not_inLeapSecond_clockTime
  split
  · omega
  · rw [if_neg (fun h => hleap h.2)]
    omega

/-- Outside of leap seconds a distance is the plain difference. -/
theorem nanosSince_clockTime_of_not_inLeapSecond (t : Instant) {now : ClockTime} (h : ¬now.InLeapSecond) :
    t.clockTime.nanosSince now = t.nanos - now.total := by
  rw [nanosSince_clockTime_eq, if_neg (fun hn => h hn.2), Int.add_zero]

/-- The time from `now` to `t`, or none of it when `t` has passed. -/
def since (t : Instant) (now : ClockTime) : Span :=
  ⟨(t.clockTime.nanosSince now).toNat, by
    have := t.nanos_lt
    have := now.le_seconds
    rw [nanosSince_clockTime_eq]
    unfold ClockTime.total ClockTime.InLeapSecond
    split <;> omega⟩

theorem nanos_since (t : Instant) (now : ClockTime) : (t.since now).nanos = (t.clockTime.nanosSince now).toNat := rfl

/-- The time to an instant is the distance, or nothing when the distance is negative. -/
theorem nanos_since_eq_max (t : Instant) (now : ClockTime) :
    ((t.since now).nanos : Int) = max (t.clockTime.nanosSince now) 0 := by
  rw [nanos_since]
  omega

end Instant

end RetryPolicy
