import RetryPolicy.Header.Fault
import RetryPolicy.Time.Instant

/-!
# Written dates and the instants they name

A `Stamp` is what a date says in words and numbers, before anything is checked. `Stamp.instant` checks it in one fixed
order, and the first check that fails gives the fault: the month's name, the day of the month, the name of the
weekday, its agreement with the date, the time of day, the zone. A weekday can only confirm a date. The date and the
time are what the clocks of the zone show. `Stamp.instant_eq_ok_iff` says which stamps pass and what they name.
-/

namespace RetryPolicy.Header

open Text

/-- The fields of a written date. A date that names no zone is in universal time. -/
structure Stamp where
  weekday : Option (List Char)
  year : Nat
  month : List Char
  day : Nat
  hour : Nat
  minute : Nat
  second : Nat
  zone : List Char := ['G', 'M', 'T']
  deriving DecidableEq

namespace Stamp

/-- The month that is named. -/
def namedMonth (s : Stamp) : Except Fault Month :=
  orFault (Month.ofName? s.month) (.unknownMonth (String.ofList s.month))

/-- The date, if its month has such a day. -/
def date (s : Stamp) (month : Month) : Except Fault Date :=
  orFault (Date.ofFields? s.year month s.day) (.noSuchDate s.year month.number s.day)

/-- The weekday that is named, if one is. -/
def namedWeekday (s : Stamp) : Except Fault (Option Weekday) :=
  match s.weekday with
  | none => .ok none
  | some name => (orFault (Weekday.ofName? name) (.unknownWeekday (String.ofList name))).map some

/-- A weekday that is named must be that of the date. -/
def confirm (named : Option Weekday) (actual : Weekday) : Except Fault Unit :=
  match named with
  | none => .ok ()
  | some w => if w = actual then .ok () else .error (.wrongWeekday w actual)

/-- The time of day. -/
def time (s : Stamp) : Except Fault TimeOfDay :=
  orFault (TimeOfDay.ofFields? s.hour s.minute s.second) (.noSuchTime s.hour s.minute s.second)

/-- The zone that is named. -/
def namedZone (s : Stamp) : Except Fault Zone :=
  orFault (Zone.ofName? s.zone) (.unknownZone (String.ofList s.zone))

/-- The instant that the stamp names, or its first fault. -/
def instant (s : Stamp) : Except Fault Instant := do
  let month ← s.namedMonth
  let date ← s.date month
  let named ← s.namedWeekday
  confirm named date.weekday
  let time ← s.time
  let zone ← s.namedZone
  return Instant.ofCivil date time zone (Instant.fraction 0)

/-- The stamp is one of a date and a time of day in a zone: its names and numbers are theirs, and a weekday that it names
is that of the date. -/
structure Says (s : Stamp) (d : Date) (t : TimeOfDay) (zone : Zone) : Prop where
  month : Month.ofName? s.month = some d.month
  year : s.year = d.year
  day : s.day = d.day
  weekday : ∀ name ∈ s.weekday, Weekday.ofName? name = some d.weekday
  hour : s.hour = t.hour
  minute : s.minute = t.minute
  second : s.second = t.second
  zone : Zone.ofName? s.zone = some zone

theorem namedWeekday_confirm_eq_ok_iff {s : Stamp} {actual : Weekday} :
    (∃ named, s.namedWeekday = .ok named ∧ confirm named actual = .ok ()) ↔
      ∀ name ∈ s.weekday, Weekday.ofName? name = some actual := by
  unfold namedWeekday
  cases s.weekday with
  | none => simp [confirm]
  | some name =>
    cases hw : Weekday.ofName? name with
    | none => simp [orFault, Except.map, hw]
    | some w => simp [orFault, Except.map, hw, confirm]

/-- A stamp is accepted for the instant of the one date and time that it says. -/
theorem instant_eq_ok_iff {s : Stamp} {i : Instant} :
    s.instant = .ok i ↔
      ∃ d t zone, s.Says d t zone ∧ i = Instant.ofCivil d t zone (Instant.fraction 0) := by
  constructor
  · intro h
    simp only [instant, bind_eq_ok_iff, pure, Except.pure, Except.ok.injEq] at h
    obtain ⟨month, hm, date, hd, named, hn, _, hc, time, ht, zone, hz, rfl⟩ := h
    rw [namedMonth, orFault_eq_ok_iff] at hm
    rw [Stamp.date, orFault_eq_ok_iff, Date.ofFields?_eq_some_iff] at hd
    rw [Stamp.time, orFault_eq_ok_iff, TimeOfDay.ofFields?_eq_some_iff] at ht
    rw [namedZone, orFault_eq_ok_iff] at hz
    obtain ⟨hy, rfl, hday⟩ := hd
    obtain ⟨hh, hmin, hs⟩ := ht
    exact ⟨date, time, zone,
      ⟨hm, hy.symm, hday.symm, namedWeekday_confirm_eq_ok_iff.1 ⟨named, hn, hc⟩, hh.symm, hmin.symm, hs.symm, hz⟩, rfl⟩
  · rintro ⟨d, t, zone, h, rfl⟩
    have hm : s.namedMonth = .ok d.month := orFault_eq_ok_iff.2 h.month
    have hd : s.date d.month = .ok d :=
      orFault_eq_ok_iff.2 (Date.ofFields?_eq_some_iff.2 ⟨h.year.symm, rfl, h.day.symm⟩)
    obtain ⟨named, hn, hc⟩ := namedWeekday_confirm_eq_ok_iff.2 h.weekday
    have ht : s.time = .ok t :=
      orFault_eq_ok_iff.2 (TimeOfDay.ofFields?_eq_some_iff.2 ⟨h.hour.symm, h.minute.symm, h.second.symm⟩)
    have hz : s.namedZone = .ok zone := orFault_eq_ok_iff.2 h.zone
    simp only [instant, bind_eq_ok_iff, pure, Except.pure, Except.ok.injEq]
    exact ⟨d.month, hm, d, hd, named, hn, (), hc, t, ht, zone, hz, rfl⟩

end Stamp

end RetryPolicy.Header
