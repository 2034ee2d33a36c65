import RetryPolicy.Time.Calendar

/-!
# Instants

An `Instant` counts nanoseconds from the start of 1970, UTC, with whole seconds in a signed 64-bit word. A date and a
time of day in a named zone denote one instant, `Instant.ofCivil`. Leap seconds are not represented: no date in a header
names one, since a `TimeOfDay` has no second 60. A clock can be in one, and so what it shows is a type of its own,
`ClockTime`.
-/

namespace RetryPolicy

open Text

/-! ## Times of day -/

/-- A time of day. It is never in a leap second: its second is below 60. -/
structure TimeOfDay where
  hour : Nat
  minute : Nat
  second : Nat
  hour_lt : hour < 24
  minute_lt : minute < 60
  second_lt : second < 60
  deriving DecidableEq

namespace TimeOfDay

/-- The time of an hour, a minute and a second, if each is in its range. -/
def ofFields? (hour minute second : Nat) : Option TimeOfDay :=
  if h : hour < 24 ∧ minute < 60 ∧ second < 60 then some ⟨hour, minute, second, h.1, h.2.1, h.2.2⟩ else none

/-- The seconds since midnight. -/
def seconds (t : TimeOfDay) : Nat :=
  t.hour * 3600 + t.minute * 60 + t.second

theorem seconds_lt (t : TimeOfDay) : t.seconds < 86400 := by
  have := t.hour_lt
  have := t.minute_lt
  have := t.second_lt
  unfold seconds
  omega

theorem ofFields?_eq_some_iff {hour minute second : Nat} {t : TimeOfDay} :
    ofFields? hour minute second = some t ↔ t.hour = hour ∧ t.minute = minute ∧ t.second = second := by
  unfold ofFields?
  constructor
  · intro h
    split at h
    · cases h
      exact ⟨rfl, rfl, rfl⟩
    · cases h
  · rintro ⟨rfl, rfl, rfl⟩
    rw [dif_pos ⟨t.hour_lt, t.minute_lt, t.second_lt⟩]

end TimeOfDay

/-! ## Zones -/

/-- The zones that dates in headers name: universal time, western, central and eastern Europe and North America, with
their summer times. -/
inductive Zone where
  | gmt | ut | utc | z | wet | west | bst | cet | cest | eet | eest | est | edt | cst | cdt | mst | mdt | pst | pdt
  deriving DecidableEq

namespace Zone

/-- The nineteen zones. -/
def all : List Zone :=
  [gmt, ut, utc, z, wet, west, bst, cet, cest, eet, eest, est, edt, cst, cdt, mst, mdt, pst, pdt]

/-- The name of the zone in a date. -/
def abbreviation : Zone → String
  | gmt => "GMT"
  | ut => "UT"
  | utc => "UTC"
  | z => "Z"
  | wet => "WET"
  | west => "WEST"
  | bst => "BST"
  | cet => "CET"
  | cest => "CEST"
  | eet => "EET"
  | eest => "EEST"
  | est => "EST"
  | edt => "EDT"
  | cst => "CST"
  | cdt => "CDT"
  | mst => "MST"
  | mdt => "MDT"
  | pst => "PST"
  | pdt => "PDT"

/-- How many hours the clocks of the zone are ahead of universal time. -/
def hoursAhead : Zone → Int
  | gmt | ut | utc | z | wet => 0
  | west | bst | cet => 1
  | cest | eet => 2
  | eest => 3
  | edt => -4
  | est | cdt => -5
  | cst | mdt => -6
  | mst | pdt => -7
  | pst => -8

/-- The zone of a name, in any case. -/
def ofName? (name : List Char) : Option Zone :=
  all.find? fun zone => sameName zone.abbreviation.toList name

theorem ofName?_abbreviation (zone : Zone) : ofName? zone.abbreviation.toList = some zone := by
  cases zone <;> decide

theorem ofName?_of_sameName {a b : List Char} (h : sameName a b = true) : ofName? a = ofName? b := by
  simp only [ofName?, sameName_congr h]

/-- The abbreviation of a zone is its only name, in any case. -/
theorem ofName?_eq_some_iff {name : List Char} {zone : Zone} :
    ofName? name = some zone ↔ sameName zone.abbreviation.toList name = true := by
  constructor
  · intro h
    rw [ofName?] at h
    have hname := List.find?_some h
    exact hname
  · intro h
    rw [← ofName?_of_sameName h]
    exact zone.ofName?_abbreviation

theorem hoursAhead_bounds (zone : Zone) : -8 ≤ zone.hoursAhead ∧ zone.hoursAhead ≤ 3 := by
  cases zone <;> decide

end Zone

/-! ## Instants -/

/-- A point in time outside of leap seconds: nanoseconds since the start of 1970, UTC, leap seconds not counted. -/
structure Instant where
  nanos : Int
  le_nanos : -(0x8000000000000000 * 1000000000) ≤ nanos
  nanos_lt : nanos < 0x8000000000000000 * 1000000000
  deriving DecidableEq

namespace Instant

instance : LE Instant := ⟨fun a b => a.nanos ≤ b.nanos⟩

instance : LT Instant := ⟨fun a b => a.nanos < b.nanos⟩

instance (a b : Instant) : Decidable (a ≤ b) := inferInstanceAs (Decidable (a.nanos ≤ b.nanos))

instance (a b : Instant) : Decidable (a < b) := inferInstanceAs (Decidable (a.nanos < b.nanos))

theorem le_iff (a b : Instant) : a ≤ b ↔ a.nanos ≤ b.nanos := Iff.rfl

theorem lt_iff (a b : Instant) : a < b ↔ a.nanos < b.nanos := Iff.rfl

/-- Whole seconds since the start of 1970, rounded towards the past. -/
def seconds (t : Instant) : Int := t.nanos / 1000000000

/-- The nanoseconds after the whole seconds. -/
def subsecond (t : Instant) : Nat := (t.nanos % 1000000000).toNat

/-- The day number of the first of January 1970. -/
def epochDay : Nat := 719528

/-- So many nanoseconds after a whole second, fewer than `1000000000`. -/
def fraction (nanos : Nat) : Fin 1000000000 := Fin.ofNat 1000000000 nanos

/-- What the clocks of a zone show at a date and a time of day, with a fraction of a second in nanoseconds. -/
def ofCivil (d : Date) (t : TimeOfDay) (zone : Zone) (fraction : Fin 1000000000) : Instant :=
  ⟨((d.dayNumber - epochDay : Int) * 86400 + t.seconds - zone.hoursAhead * 3600) * 1000000000 + fraction, by
    have := t.seconds_lt
    have := zone.hoursAhead_bounds
    unfold epochDay
    omega, by
    have := d.dayNumber_lt
    have := t.seconds_lt
    have := zone.hoursAhead_bounds
    have := fraction.isLt
    unfold epochDay
    omega⟩

/-- Greenwich has universal time. -/
theorem ofCivil_gmt (d : Date) (t : TimeOfDay) (fraction : Fin 1000000000) :
    ofCivil d t .gmt fraction = ofCivil d t .utc fraction := rfl

theorem val_fraction {n : Nat} (h : n < 1000000000) : (fraction n).val = n :=
  Nat.mod_eq_of_lt h

theorem ext {a b : Instant} (h : a.nanos = b.nanos) : a = b := by
  cases a
  cases b
  simp_all

end Instant

end RetryPolicy
