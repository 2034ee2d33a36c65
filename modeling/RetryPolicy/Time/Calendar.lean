import RetryPolicy.Text.Letters

/-!
# The proleptic Gregorian calendar

Dates of the years 0 to 9999 and their day numbers, counted from the first of January of year 0, which was a Saturday.
A `Date` exists by construction: its day is a day of its month. `daysBeforeYear_succ` says that a year adds 365 days
to the day numbers after it, or 366 when it is a leap year.
-/

namespace RetryPolicy

open Text

/-! ## Months -/

/-- A month of the year. -/
inductive Month where
  | january | february | march | april | may | june | july | august | september | october | november | december
  deriving DecidableEq

namespace Month

/-- The twelve months, in order. -/
def all : List Month :=
  [january, february, march, april, may, june, july, august, september, october, november, december]

/-- The English three-letter name. -/
def abbreviation : Month → String
  | january => "Jan"
  | february => "Feb"
  | march => "Mar"
  | april => "Apr"
  | may => "May"
  | june => "Jun"
  | july => "Jul"
  | august => "Aug"
  | september => "Sep"
  | october => "Oct"
  | november => "Nov"
  | december => "Dec"

/-- The number of the month, from 1. -/
def number : Month → Nat
  | january => 1
  | february => 2
  | march => 3
  | april => 4
  | may => 5
  | june => 6
  | july => 7
  | august => 8
  | september => 9
  | october => 10
  | november => 11
  | december => 12

/-- The month of a number. -/
def ofNumber? (n : Nat) : Option Month :=
  all.find? fun m => m.number == n

/-- The month of a three-letter name, in any case. -/
def ofName? (name : List Char) : Option Month :=
  all.find? fun m => sameName m.abbreviation.toList name

/-- The number of days of the month, in a leap year or in another. -/
def length (leap : Bool) : Month → Nat
  | february => if leap then 29 else 28
  | april | june | september | november => 30
  | _ => 31

/-- The number of days of the months before this one. -/
def daysBefore (leap : Bool) (m : Month) : Nat :=
  (all.takeWhile fun k => k != m).foldr (fun k days => k.length leap + days) 0

theorem ofName?_abbreviation (m : Month) : ofName? m.abbreviation.toList = some m := by
  cases m <;> decide

theorem ofName?_of_sameName {a b : List Char} (h : sameName a b = true) : ofName? a = ofName? b := by
  simp only [ofName?, sameName_congr h]

/-- The three letters of a month are its only name, in any case. -/
theorem ofName?_eq_some_iff {name : List Char} {m : Month} :
    ofName? name = some m ↔ sameName m.abbreviation.toList name = true := by
  constructor
  · intro h
    rw [ofName?] at h
    have hname := List.find?_some h
    exact hname
  · intro h
    rw [← ofName?_of_sameName h]
    exact m.ofName?_abbreviation

theorem ofNumber?_number (m : Month) : ofNumber? m.number = some m := by
  cases m <;> rfl

/-- A number is that of one month at most. -/
theorem ofNumber?_eq_some_iff {n : Nat} {m : Month} : ofNumber? n = some m ↔ m.number = n := by
  constructor
  · intro h
    rw [ofNumber?] at h
    have hnumber := List.find?_some h
    exact eq_of_beq hnumber
  · rintro rfl
    exact m.ofNumber?_number

theorem number_inj {m k : Month} (h : m.number = k.number) : m = k := by
  have hm := m.ofNumber?_number
  rw [h, k.ofNumber?_number] at hm
  exact (Option.some.inj hm).symm

theorem number_le (m : Month) : m.number ≤ 12 := by
  cases m <;> decide

theorem length_le (leap : Bool) (m : Month) : m.length leap ≤ 31 := by
  cases leap <;> cases m <;> decide

/-- A month has ended when a later one begins. -/
theorem daysBefore_add_length_le_of_lt (leap : Bool) {m k : Month} (h : m.number < k.number) :
    m.daysBefore leap + m.length leap ≤ k.daysBefore leap := by
  revert h
  cases leap <;> cases m <;> cases k <;> decide

/-- A month and the months before it take no more days than the year has. -/
theorem daysBefore_add_length_le (leap : Bool) (m : Month) :
    m.daysBefore leap + m.length leap ≤ if leap then 366 else 365 := by
  cases leap <;> cases m <;> decide

end Month

/-! ## Days of the week -/

/-- A day of the week. -/
inductive Weekday where
  | monday | tuesday | wednesday | thursday | friday | saturday | sunday
  deriving DecidableEq

namespace Weekday

/-- The seven days, from Monday. -/
def all : List Weekday :=
  [monday, tuesday, wednesday, thursday, friday, saturday, sunday]

/-- The English name in full. -/
def name : Weekday → String
  | monday => "Monday"
  | tuesday => "Tuesday"
  | wednesday => "Wednesday"
  | thursday => "Thursday"
  | friday => "Friday"
  | saturday => "Saturday"
  | sunday => "Sunday"

/-- The English three-letter name. -/
def abbreviation : Weekday → String
  | monday => "Mon"
  | tuesday => "Tue"
  | wednesday => "Wed"
  | thursday => "Thu"
  | friday => "Fri"
  | saturday => "Sat"
  | sunday => "Sun"

/-- Days after Monday. -/
def index : Weekday → Nat
  | monday => 0
  | tuesday => 1
  | wednesday => 2
  | thursday => 3
  | friday => 4
  | saturday => 5
  | sunday => 6

/-- The day so many days after a Monday. -/
def ofIndex (n : Nat) : Weekday :=
  match n % 7 with
  | 0 => monday
  | 1 => tuesday
  | 2 => wednesday
  | 3 => thursday
  | 4 => friday
  | 5 => saturday
  | _ => sunday

/-- The day of a name in full or of three letters, in any case. -/
def ofName? (name : List Char) : Option Weekday :=
  all.find? fun w => sameName w.abbreviation.toList name || sameName w.name.toList name

theorem ofName?_abbreviation (w : Weekday) : ofName? w.abbreviation.toList = some w := by
  cases w <;> decide

theorem ofName?_name (w : Weekday) : ofName? w.name.toList = some w := by
  cases w <;> decide

theorem ofName?_of_sameName {a b : List Char} (h : sameName a b = true) : ofName? a = ofName? b := by
  simp only [ofName?, sameName_congr h]

/-- A day has two names, the one in full and the one of three letters, in any case. -/
theorem ofName?_eq_some_iff {name : List Char} {w : Weekday} :
    ofName? name = some w ↔
      sameName w.abbreviation.toList name = true ∨ sameName w.name.toList name = true := by
  constructor
  · intro h
    rw [ofName?] at h
    have hname := List.find?_some h
    rwa [Bool.or_eq_true] at hname
  · rintro (h | h)
    · rw [← ofName?_of_sameName h]
      exact w.ofName?_abbreviation
    · rw [← ofName?_of_sameName h]
      exact w.ofName?_name

theorem index_ofIndex (n : Nat) : (ofIndex n).index = n % 7 := by
  unfold ofIndex
  have := Nat.mod_lt n (show 7 > 0 by decide)
  split
  all_goals simp_all [index]
  omega

theorem ofIndex_index (w : Weekday) : ofIndex w.index = w := by
  cases w <;> rfl

end Weekday

/-! ## Years -/

/-- Every fourth year is a leap year, of the full centuries every fourth. -/
def isLeap (year : Nat) : Bool :=
  year % 4 == 0 && (year % 100 != 0 || year % 400 == 0)

/-- The number of days of the years before this one, from year 0. -/
def daysBeforeYear (year : Nat) : Nat :=
  365 * year + (year + 3) / 4 - (year + 99) / 100 + (year + 399) / 400

theorem daysBeforeYear_succ (year : Nat) :
    daysBeforeYear (year + 1) = daysBeforeYear year + if isLeap year then 366 else 365 := by
  have h4 : (year + 4) / 4 = (year + 3) / 4 + if year % 4 = 0 then 1 else 0 := by split <;> omega
  have h100 : (year + 100) / 100 = (year + 99) / 100 + if year % 100 = 0 then 1 else 0 := by split <;> omega
  have h400 : (year + 400) / 400 = (year + 399) / 400 + if year % 400 = 0 then 1 else 0 := by split <;> omega
  have hle : (year + 99) / 100 ≤ year := by omega
  have i4 : year % 100 = 0 → year % 4 = 0 := by omega
  have i100 : year % 400 = 0 → year % 100 = 0 := by omega
  unfold daysBeforeYear isLeap
  rw [show year + 1 + 3 = year + 4 from rfl, show year + 1 + 99 = year + 100 from rfl,
    show year + 1 + 399 = year + 400 from rfl, h4, h100, h400]
  generalize (year + 3) / 4 = a at *
  generalize (year + 99) / 100 = b at *
  generalize (year + 399) / 400 = c at *
  by_cases m4 : year % 4 = 0 <;> by_cases m100 : year % 100 = 0 <;> by_cases m400 : year % 400 = 0 <;>
    simp [m4, m100, m400] at i4 i100 ⊢ <;> omega

/-! ## Dates -/

/-- A day of the years 0 to 9999. -/
structure Date where
  year : Nat
  month : Month
  day : Nat
  year_le : year ≤ 9999
  day_pos : 1 ≤ day
  day_le : day ≤ month.length (isLeap year)
  deriving DecidableEq

namespace Date

/-- The date of a year, a month and a day of that month; there is none when the month has no such day. -/
def ofFields? (year : Nat) (month : Month) (day : Nat) : Option Date :=
  if h : year ≤ 9999 ∧ 1 ≤ day ∧ day ≤ month.length (isLeap year) then
    some ⟨year, month, day, h.1, h.2.1, h.2.2⟩
  else
    none

/-- The number of days before the date, from the first of January of year 0. -/
def dayNumber (d : Date) : Nat :=
  daysBeforeYear d.year + d.month.daysBefore (isLeap d.year) + (d.day - 1)

/-- The day of the week: day number 0 was a Saturday. -/
def weekday (d : Date) : Weekday :=
  Weekday.ofIndex (d.dayNumber + 5)

theorem ofFields?_eq_some_iff {year : Nat} {month : Month} {day : Nat} {d : Date} :
    ofFields? year month day = some d ↔ d.year = year ∧ d.month = month ∧ d.day = day := by
  unfold ofFields?
  constructor
  · intro h
    split at h
    · cases h
      exact ⟨rfl, rfl, rfl⟩
    · cases h
  · rintro ⟨rfl, rfl, rfl⟩
    rw [dif_pos ⟨d.year_le, d.day_pos, d.day_le⟩]

/-- The day after a date lies no later than the first day of the next year. -/
theorem dayNumber_lt_year (d : Date) : d.dayNumber < daysBeforeYear (d.year + 1) := by
  have hm := Month.daysBefore_add_length_le (isLeap d.year) d.month
  have hp := d.day_pos
  have hl := d.day_le
  rw [daysBeforeYear_succ]
  unfold dayNumber
  omega

/-- The years 0 to 9999 have 3652425 days. -/
theorem dayNumber_lt (d : Date) : d.dayNumber < 3652425 := by
  have h := d.dayNumber_lt_year
  have hy := d.year_le
  unfold daysBeforeYear at h
  omega

end Date

end RetryPolicy
