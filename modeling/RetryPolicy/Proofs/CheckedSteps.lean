import RetryPolicy.Proofs.FormatPatterns
import RetryPolicy.Proofs.ReaderLog
import RetryPolicy.Proofs.FirstFault

/-!
# Every step of reading can be taken

What is read of a text is read from the groups of a pattern by steps that are not always possible: a group that is asked for may
have taken no part, a character may be no digit, a number may grow out of its word, a date may leave the calendar, a date may be too
far from the clock. Here the steps are taken with these checks, and a check that fails gives `none` (`Format.checkedWait`). None does:
the pattern of a format lets through only what its steps can be taken on (`Format.Admits`), so that with checks the same is read as
without (`every_step_can_be_taken`).
-/

namespace RetryPolicy

open Text Header

/-! ## Numbers -/

namespace Text

/-- The number of a digit. -/
def digit? (c : Char) : Option Nat :=
  if c.isDigit then some (c.toNat - '0'.toNat) else none

/-- A number that is joined by a digit, within a word of so many bits. -/
def joined? (bits n : Nat) (c : Char) : Option Nat := do
  let d ← digit? c
  if n * 10 + d < 2 ^ bits then some (n * 10 + d) else none

/-- The number of a run of digits, which join it one by one within a word of so many bits. -/
def number? (bits : Nat) (cs : List Char) : Option Nat :=
  cs.foldlM (joined? bits) 0

theorem exists_digit? {c : Char} (h : c.isDigit = true) : ∃ d ≤ 9, digit? c = some d ∧ c.toNat - '0'.toNat = d := by
  have hvalue : value [c] = c.toNat - '0'.toNat := by
    rw [value, Nat.ofDigitChars_cons, Nat.ofDigitChars_nil, Nat.mul_zero, Nat.zero_add]
  have hlt := (value_digit h).1
  rw [hvalue] at hlt
  exact ⟨_, Nat.le_of_lt_succ hlt, if_pos h, rfl⟩

/-- Digits for which there is room join a number one by one. -/
theorem foldlM_joined? {bits : Nat} {cs : List Char} (h : cs.all Char.isDigit = true) {n : Nat}
    (hroom : (n + 1) * 10 ^ cs.length ≤ 2 ^ bits) : cs.foldlM (joined? bits) n = some (Nat.ofDigitChars 10 cs n) := by
  induction cs generalizing n with
  | nil => rfl
  | cons c cs ih =>
    rw [List.all_cons, Bool.and_eq_true] at h
    obtain ⟨d, hle, hdigit, hd⟩ := exists_digit? h.1
    have hrest : (n * 10 + d + 1) * 10 ^ cs.length ≤ 2 ^ bits := by
      calc (n * 10 + d + 1) * 10 ^ cs.length
        _ ≤ (n + 1) * 10 * 10 ^ cs.length := Nat.mul_le_mul_right _ (by omega)
        _ = (n + 1) * 10 ^ (c :: cs).length := by rw [List.length_cons, Nat.pow_succ', Nat.mul_assoc]
        _ ≤ 2 ^ bits := hroom
    have hfits : n * 10 + d < 2 ^ bits :=
      calc n * 10 + d
        _ < n * 10 + d + 1 := Nat.lt_succ_self _
        _ ≤ (n * 10 + d + 1) * 10 ^ cs.length := Nat.le_mul_of_pos_right _ (Nat.pow_pos (by decide))
        _ ≤ 2 ^ bits := hrest
    have hjoined : joined? bits n c = some (n * 10 + d) := by
      rw [joined?, hdigit]
      exact if_pos hfits
    rw [List.foldlM_cons, hjoined, Option.bind_eq_bind, Option.bind_some, ih h.2 hrest, Nat.ofDigitChars_cons, hd,
      Nat.mul_comm n 10]

/-- Digits that are not too many have a number, and it is the one that they denote. -/
theorem number?_eq {bits : Nat} {cs : List Char} (h : cs.all Char.isDigit = true) (hroom : 10 ^ cs.length ≤ 2 ^ bits) :
    number? bits cs = some (value cs) :=
  foldlM_joined? h (by rwa [Nat.zero_add, Nat.one_mul])

/-- Four digits fit in 32 bits. -/
theorem number?_of_short {cs : List Char} (h : cs.all Char.isDigit = true) (hl : cs.length ≤ 4) :
    number? 32 cs = some (value cs) :=
  number?_eq h (Nat.le_trans (Nat.pow_le_pow_right (by decide) hl) (by decide))

/-- What a group takes, or nothing where it takes no part. -/
def part (g : Captures) (n : Nat) : List Char :=
  (g.lookup n).getD []

end Text

/-! ## The calendar and the distance from a clock -/

/-- The first day of a year, which may lie before year 0. -/
def firstDayOf (year : Int) : Int :=
  365 * year + (year + 3) / 4 - (year + 99) / 100 + (year + 399) / 400

theorem firstDayOf_natCast (year : Nat) : firstDayOf year = daysBeforeYear year := by
  unfold firstDayOf daysBeforeYear
  omega

/-- The day, counted from the start of 1970, falls in the years that the calendar has, -262143 to 262142. -/
def InYears (day : Int) : Prop :=
  firstDayOf (-262143) ≤ day + Instant.epochDay ∧ day + Instant.epochDay < firstDayOf 262143

instance (day : Int) : Decidable (InYears day) :=
  inferInstanceAs (Decidable (_ ∧ _))

/-- The instant is in the calendar. -/
def Instant.InCalendar (t : Instant) : Prop :=
  InYears (t.nanos / 86400000000000)

/-- The clock shows a time of the calendar, perhaps in a leap second. -/
def ClockTime.InCalendar (c : ClockTime) : Prop :=
  InYears c.day

instance (c : ClockTime) : Decidable c.InCalendar :=
  inferInstanceAs (Decidable (InYears c.day))

/-- The seconds that a zone is ahead of universal time, less than a day. -/
def Zone.offset? (zone : Zone) : Option Int :=
  if -86400 < zone.hoursAhead * 3600 ∧ zone.hoursAhead * 3600 < 86400 then some (zone.hoursAhead * 3600) else none

/-- The instant of so many nanoseconds, if it is in the calendar. -/
def Instant.ofNanos? (nanos : Int) : Option Instant :=
  if h : InYears (nanos / 86400000000000) then
    some ⟨nanos, by
      unfold InYears firstDayOf epochDay at h
      omega, by
      unfold InYears firstDayOf epochDay at h
      omega⟩
  else
    none

/-- The instant at which the clocks of a zone show a date and a time, if the zone has an offset and the calendar the instant. -/
def Instant.inZone? (d : Date) (t : TimeOfDay) (zone : Zone) : Option Instant := do
  let offset ← zone.offset?
  ofNanos? ((ofCivil d t .utc (fraction 0)).nanos - offset * 1000000000)

/-- A length of time with a sign, within a signed 64-bit word of milliseconds. -/
structure SignedSpan where
  nanos : Int
  le_nanos : -(0x7fffffffffffffff * 1000000) ≤ nanos
  nanos_le : nanos ≤ 0x7fffffffffffffff * 1000000

namespace SignedSpan

/-- So many nanoseconds, if they are within the word. -/
def ofNanos? (nanos : Int) : Option SignedSpan :=
  if h : -(0x7fffffffffffffff * 1000000) ≤ nanos ∧ nanos ≤ 0x7fffffffffffffff * 1000000 then some ⟨nanos, h.1, h.2⟩ else none

/-- The sum of two spans, if it is within the word. -/
def add? (a b : SignedSpan) : Option SignedSpan :=
  ofNanos? (a.nanos + b.nanos)

/-- The span without its sign, unless it is negative. -/
def span? (d : SignedSpan) : Option Span :=
  if 0 ≤ d.nanos then
    some ⟨d.nanos.toNat, by
      have := d.nanos_le
      omega⟩
  else
    none

theorem exists_ofNanos? {nanos : Int} (hl : -(0x7fffffffffffffff * 1000000) ≤ nanos)
    (hu : nanos ≤ 0x7fffffffffffffff * 1000000) : ∃ d, ofNanos? nanos = some d ∧ d.nanos = nanos :=
  ⟨⟨nanos, hl, hu⟩, dif_pos ⟨hl, hu⟩, rfl⟩

/-- A negative span counts for none. -/
theorem nanos_span? (d : SignedSpan) : (d.span?.getD Span.zero).nanos = d.nanos.toNat := by
  unfold span?
  split
  · rfl
  · rename_i h
    exact (Int.toNat_of_nonpos (Int.le_of_lt (Int.not_le.1 h))).symm

end SignedSpan

/-- The wait from now on, if the distance in days, the distance of the times of day and the sum of both are within their word. There
is nothing to wait for when the instant has passed. -/
def Instant.until? (t : Instant) (now : ClockTime) : Option Span := do
  let days ← SignedSpan.ofNanos? (t.clockTime.dayNanosSince now)
  let time ← SignedSpan.ofNanos? (t.clockTime.timeNanosSince now)
  let whole ← days.add? time
  return whole.span?.getD Span.zero

/-- Every zone has an offset. -/
theorem Zone.offset?_eq (zone : Zone) : zone.offset? = some (zone.hoursAhead * 3600) := by
  obtain ⟨hl, hu⟩ := zone.hoursAhead_bounds
  exact if_pos (by omega)

namespace Instant

/-- Dates of the years 0 to 9999 are in the calendar, whatever the zone. -/
theorem inCalendar_ofCivil (d : Date) (t : TimeOfDay) (zone : Zone) (f : Fin 1000000000) : (ofCivil d t zone f).InCalendar := by
  have hd := d.dayNumber_lt
  have ht := t.seconds_lt
  have hz := zone.hoursAhead_bounds
  have hf := f.isLt
  simp only [InCalendar, InYears, ofCivil, firstDayOf, epochDay]
  omega

/-- No zone takes a date out of the calendar. -/
theorem inZone?_eq (d : Date) (t : TimeOfDay) (zone : Zone) : inZone? d t zone = some (ofCivil d t zone (fraction 0)) := by
  have hnanos : (ofCivil d t .utc (fraction 0)).nanos - zone.hoursAhead * 3600 * 1000000000 =
      (ofCivil d t zone (fraction 0)).nanos := by
    simp only [ofCivil, show Zone.utc.hoursAhead = 0 from rfl]
    omega
  rw [inZone?, zone.offset?_eq, Option.bind_eq_bind, Option.bind_some, hnanos]
  exact dif_pos (inCalendar_ofCivil d t zone (fraction 0))

theorem inCalendar_clockTime {t : Instant} (h : t.InCalendar) : t.clockTime.InCalendar := by
  have hday : t.clockTime.day = t.nanos / 86400000000000 := by
    simp only [ClockTime.day, clockTime, seconds]
    omega
  rwa [ClockTime.InCalendar, hday]

end Instant

namespace ClockTime

/-- Days of the calendar are not too far apart. -/
theorem dayNanosSince_bounds {a b : ClockTime} (ha : a.InCalendar) (hb : b.InCalendar) :
    -20000000000000000000000 ≤ a.dayNanosSince b ∧ a.dayNanosSince b ≤ 20000000000000000000000 := by
  unfold InCalendar InYears firstDayOf Instant.epochDay at ha hb
  unfold dayNanosSince
  omega

/-- Times of day are little more than a day apart, also those in a leap second. -/
theorem timeNanosSince_bounds (a b : ClockTime) :
    -90000000000000 ≤ a.timeNanosSince b ∧ a.timeNanosSince b ≤ 90000000000000 := by
  have := a.nanos_lt
  have := b.nanos_lt
  unfold timeNanosSince leapSecondsSince secondOfDay
  omega

end ClockTime

namespace Instant

/-- No instant of the calendar is too far from a clock that shows a time of the calendar, in a leap second or not. -/
theorem until?_eq {t : Instant} {now : ClockTime} (ht : t.InCalendar) (hn : now.InCalendar) :
    t.until? now = some (t.since now) := by
  obtain ⟨hdl, hdu⟩ := ClockTime.dayNanosSince_bounds (inCalendar_clockTime ht) hn
  obtain ⟨htl, htu⟩ := t.clockTime.timeNanosSince_bounds now
  obtain ⟨days, hdays, daysNanos⟩ : ∃ d, SignedSpan.ofNanos? (t.clockTime.dayNanosSince now) = some d ∧ d.nanos = _ :=
    SignedSpan.exists_ofNanos? (by omega) (by omega)
  obtain ⟨time, htime, timeNanos⟩ : ∃ d, SignedSpan.ofNanos? (t.clockTime.timeNanosSince now) = some d ∧ d.nanos = _ :=
    SignedSpan.exists_ofNanos? (by omega) (by omega)
  obtain ⟨whole, hwhole, wholeNanos⟩ : ∃ d, days.add? time = some d ∧ d.nanos = days.nanos + time.nanos :=
    SignedSpan.exists_ofNanos? (by omega) (by omega)
  have hsum : whole.nanos = t.clockTime.nanosSince now := by
    rw [wholeNanos, daysNanos, timeNanos, ClockTime.nanosSince]
  have hspan : whole.span?.getD Span.zero = t.since now :=
    Span.ext (by rw [SignedSpan.nanos_span?, hsum, nanos_since])
  simp only [until?, hdays, htime, hwhole, hspan, Option.bind_eq_bind, Option.bind_some, Option.pure_def]

end Instant

/-! ## What the groups of a pattern keep -/

namespace Header

/-- Digits, and not more than four. -/
def Short (v : List Char) : Prop :=
  v.all Char.isDigit = true ∧ v.length ≤ 4

/-- Four digits are a year of the calendar. -/
theorem value_le_of_length {v : List Char} (h : v.all Char.isDigit = true) (hl : v.length = 4) : value v ≤ 9999 := by
  have hlt := value_lt h
  rw [hl] at hlt
  exact Nat.le_of_lt_succ hlt

/-- The group keeps a short number, or takes no part and counts for zero. -/
def Counts (g : Captures) (n k : Nat) : Prop :=
  Short (part g n) ∧ value (part g n) = k

theorem Counts.number?_eq {g : Captures} {n k : Nat} (h : Counts g n k) : number? 32 (part g n) = some k := by
  obtain ⟨⟨hdigits, hlength⟩, rfl⟩ := h
  exact number?_of_short hdigits hlength

/-- Which groups keep the parts of a date. The three of the time of day follow each other. -/
structure Layout where
  weekday : Nat
  day : Nat
  month : Nat
  year : Nat
  clock : Nat
  /-- The group of the zone, in a format that names one. -/
  zone : Option Nat
  /-- The year from which the written years are counted. -/
  century : Nat

namespace Layout

/-- The groups that must have taken a part. -/
def indexed (l : Layout) : List Nat :=
  l.month :: l.zone.toList

/-- The groups that keep numbers. -/
def counted (l : Layout) : List Nat :=
  [l.year, l.day, l.clock, l.clock + 1, l.clock + 2]

/-- The name of the zone; universal time where none is named. -/
def zone? (l : Layout) (g : Captures) : Option (List Char) :=
  match l.zone with
  | some n => g.lookup n
  | none => some ['G', 'M', 'T']

/-- What a date says, read from the groups. -/
def stamp? (l : Layout) (g : Captures) : Option Stamp := do
  let year ← number? 32 (part g l.year)
  let month ← g.lookup l.month
  let day ← number? 32 (part g l.day)
  let hour ← number? 32 (part g l.clock)
  let minute ← number? 32 (part g (l.clock + 1))
  let second ← number? 32 (part g (l.clock + 2))
  let zone ← l.zone? g
  return { weekday := g.lookup l.weekday, year := l.century + year, month, day, hour, minute, second, zone }

/-- The groups keep what a stamp says, of a year that the calendar is asked for. -/
structure Keeps (l : Layout) (g : Captures) (s : Stamp) : Prop where
  weekday : g.lookup l.weekday = s.weekday
  year : ∃ year, Counts g l.year year ∧ s.year = l.century + year
  month : g.lookup l.month = some s.month
  day : Counts g l.day s.day
  hour : Counts g l.clock s.hour
  minute : Counts g (l.clock + 1) s.minute
  second : Counts g (l.clock + 2) s.second
  zone : l.zone? g = some s.zone
  year_le : s.year ≤ 9999

theorem Keeps.stamp?_eq {l : Layout} {g : Captures} {s : Stamp} (h : l.Keeps g s) : l.stamp? g = some s := by
  obtain ⟨year, hyear, hs⟩ := h.year
  simp [stamp?, hyear.number?_eq, h.month, h.day.number?_eq, h.hour.number?_eq, h.minute.number?_eq, h.second.number?_eq,
    h.zone, h.weekday, ← hs]

theorem Keeps.exists_lookup {l : Layout} {g : Captures} {s : Stamp} (h : l.Keeps g s) :
    ∀ n ∈ l.indexed, ∃ v, g.lookup n = some v := by
  intro n hn
  rcases List.mem_cons.1 hn with rfl | hn
  · exact ⟨_, h.month⟩
  · have hzone := h.zone
    rw [zone?, Option.mem_toList.1 hn] at hzone
    exact ⟨_, hzone⟩

theorem Keeps.exists_counts {l : Layout} {g : Captures} {s : Stamp} (h : l.Keeps g s) :
    ∀ n ∈ l.counted, ∃ k, Counts g n k := by
  obtain ⟨year, hyear, -⟩ := h.year
  simp only [counted, List.forall_mem_cons]
  exact ⟨⟨_, hyear⟩, ⟨_, h.day⟩, ⟨_, h.hour⟩, ⟨_, h.minute⟩, ⟨_, h.second⟩, List.forall_mem_nil _⟩

end Layout

theorem ClockText.short {t : ClockText} (h : t.WellFormed) :
    Short t.hour ∧ Short t.minute ∧ Short (t.second.getD []) := by
  obtain ⟨lh, ph, lm, pm, hs⟩ := h
  refine ⟨⟨ph, by omega⟩, ⟨pm, by omega⟩, ?_⟩
  cases hv : t.second with
  | none => exact ⟨rfl, Nat.zero_le 4⟩
  | some s =>
    obtain ⟨ls, ps⟩ := hs s hv
    exact ⟨ps, by rw [Option.getD_some]; omega⟩

namespace ImfText

def layout : Layout where
  weekday := 1
  day := 2
  month := 3
  year := 4
  clock := 5
  zone := none
  century := 0

theorem keeps_stamp {t : ImfText} (h : t.WellFormed) : layout.Keeps t.groups t.stamp := by
  obtain ⟨-, ld, pd, -, -, -, -, ly, py, -, hc, -⟩ := h
  have day : Short t.day := ⟨pd, by omega⟩
  have year : Short t.year := ⟨py, by omega⟩
  obtain ⟨hour, minute, second⟩ := ClockText.short hc
  have hyear : t.stamp.year ≤ 9999 := value_le_of_length py ly
  rcases t with ⟨_ | w, d, g1, m, g2, y, g3, ⟨k, n, _ | s⟩, g4⟩
  all_goals exact ⟨rfl, ⟨_, ⟨year, rfl⟩, (Nat.zero_add _).symm⟩, rfl, ⟨day, rfl⟩, ⟨hour, rfl⟩, ⟨minute, rfl⟩, ⟨second, rfl⟩,
    rfl, hyear⟩

end ImfText

namespace Rfc850Text

/-- The two digits of a year are counted from 2000. -/
def layout : Layout where
  weekday := 1
  day := 2
  month := 3
  year := 4
  clock := 5
  zone := some 8
  century := 2000

theorem keeps_stamp {t : Rfc850Text} (h : t.WellFormed) : layout.Keeps t.groups t.stamp := by
  obtain ⟨-, ld, pd, -, -, ly, py, -, hc, -⟩ := h
  have day : Short t.day := ⟨pd, by omega⟩
  have year : Short t.year := ⟨py, by omega⟩
  obtain ⟨hour, minute, second⟩ := ClockText.short hc
  have hyear : t.stamp.year ≤ 9999 := by
    have hlt := value_lt py
    rw [ly] at hlt
    exact Nat.le_trans (Nat.add_le_add_left (Nat.le_of_lt hlt) 2000) (by decide)
  rcases t with ⟨_ | w, d, m, y, g1, ⟨k, n, _ | s⟩, g2, z⟩
  all_goals exact ⟨rfl, ⟨_, ⟨year, rfl⟩, rfl⟩, rfl, ⟨day, rfl⟩, ⟨hour, rfl⟩, ⟨minute, rfl⟩, ⟨second, rfl⟩, rfl, hyear⟩

end Rfc850Text

namespace AsctimeText

def layout : Layout where
  weekday := 1
  day := 3
  month := 2
  year := 7
  clock := 4
  zone := none
  century := 0

theorem keeps_stamp {t : AsctimeText} (h : t.WellFormed) : layout.Keeps t.groups t.stamp := by
  obtain ⟨-, -, -, -, -, ld, pd, -, hc, -, -, ly, py⟩ := h
  have day : Short t.day := ⟨pd, by omega⟩
  have year : Short t.year := ⟨py, by omega⟩
  obtain ⟨hour, minute, second⟩ := ClockText.short hc
  have hyear : t.stamp.year ≤ 9999 := value_le_of_length py ly
  rcases t with ⟨_ | w, m, g1, d, g2, ⟨k, n, _ | s⟩, g3, y⟩
  all_goals exact ⟨rfl, ⟨_, ⟨year, rfl⟩, (Nat.zero_add _).symm⟩, rfl, ⟨day, rfl⟩, ⟨hour, rfl⟩, ⟨minute, rfl⟩, ⟨second, rfl⟩,
    rfl, hyear⟩

end AsctimeText

end Header

/-! ## Reading with checks -/

namespace Header

namespace Stamp

/-- The date, the time of day and the zone that a stamp names, or its first fault. -/
def civil (s : Stamp) : Except Fault (Date × TimeOfDay × Zone) := do
  let month ← s.namedMonth
  let date ← s.date month
  let named ← s.namedWeekday
  confirm named date.weekday
  let time ← s.time
  let zone ← s.namedZone
  return (date, time, zone)

/-- The instant that a stamp names, taken out of its zone with checks. -/
def instant? (s : Stamp) : Option (Except Fault Instant) :=
  match s.civil with
  | .error fault => some (.error fault)
  | .ok (date, time, zone) => (Instant.inZone? date time zone).map .ok

theorem instant_eq_map_civil (s : Stamp) :
    s.instant = (fun x : Date × TimeOfDay × Zone => Instant.ofCivil x.1 x.2.1 x.2.2 (Instant.fraction 0)) <$> s.civil := by
  simp only [instant, civil, map_bind, map_pure]

/-- A stamp that is read with checks is read as without. -/
theorem instant?_eq (s : Stamp) : s.instant? = some s.instant := by
  rw [instant_eq_map_civil, instant?]
  rcases s.civil with fault | ⟨date, time, zone⟩
  · rfl
  · simp only [Instant.inZone?_eq]
    rfl

end Stamp

/-- The first three digits after a point, with zeros in the place of digits that are missing. -/
def thousandths (g : Captures) : List Char :=
  (part g 2 ++ ['0', '0', '0']).take 3

namespace DecimalText

theorem thousandths_groups (t : DecimalText) : thousandths t.groups = (t.fraction.getD [] ++ ['0', '0', '0']).take 3 := by
  rcases t with ⟨w, _ | f⟩
  · rfl
  · rfl

theorem all_isDigit_thousandths {t : DecimalText} (h : t.WellFormed) : (thousandths t.groups).all Char.isDigit = true := by
  obtain ⟨-, -, hf⟩ := h
  have hdigits : (t.fraction.getD []).all Char.isDigit = true := by
    cases hv : t.fraction with
    | none => rfl
    | some f => exact hf f hv
  have hall : (t.fraction.getD [] ++ ['0', '0', '0']).all Char.isDigit = true := by
    rw [List.all_append, hdigits]
    rfl
  rw [thousandths_groups, List.all_eq_true]
  exact fun c hc => List.all_eq_true.1 hall c (List.mem_of_mem_take hc)

theorem length_thousandths (g : Captures) : (thousandths g).length = 3 := by
  rw [thousandths, List.length_take, List.length_append]
  exact Nat.min_eq_left (Nat.le_add_left 3 _)

/-- The thousandths fit in a word of 64 bits. -/
theorem number?_thousandths {t : DecimalText} (h : t.WellFormed) : number? 64 (thousandths t.groups) = some t.fractionMillis := by
  rw [number?_eq (all_isDigit_thousandths h) (by rw [length_thousandths]; decide), thousandths_groups, fractionMillis]

end DecimalText

end Header

namespace Format

/-- Where the format of a date with names keeps its parts. -/
def layout? : Format → Option Layout
  | imfFixdate => some ImfText.layout
  | rfc850 => some Rfc850Text.layout
  | asctime => some AsctimeText.layout
  | _ => none

/-- The groups that the format asks for and that must have taken a part. -/
def indexed (f : Format) : List Nat :=
  match f with
  | decimalSeconds => [1]
  | f => (f.layout?.map Layout.indexed).getD []

/-- The groups that the format reads as numbers of 32 bits. -/
def counted (f : Format) : List Nat :=
  match f with
  | iso8601 => [1, 2, 3]
  | f => (f.layout?.map Layout.counted).getD []

/-- What a text of the format says, read with checks from what the groups of its pattern have taken. -/
def convert? (f : Format) (cs : List Char) (g : Captures) : Option (Except Fault Heading) :=
  match f with
  | wholeSeconds => some ((orFault (Span.ofSeconds? (value cs)) (.tooLong (String.ofList cs))).map .delay)
  | decimalSeconds => do
    let whole ← g.lookup 1
    let millis ← number? 64 (thousandths g)
    let delay := (Millis.ofNat? (value whole * 1000 + millis)).map Millis.span
    return (orFault delay (.tooLong (String.ofList cs))).map .delay
  | iso8601 => do
    let hour ← number? 32 (part g 1)
    let minute ← number? 32 (part g 2)
    let second ← number? 32 (part g 3)
    let t ← IsoText.scan cs
    return do
      let time ← orFault (TimeOfDay.ofFields? hour minute second) (.noSuchTime hour minute second)
      let date ← t.date
      return .date (Instant.ofCivil date time .utc (Instant.fraction t.nanos))
  | f => do
    let l ← f.layout?
    let s ← l.stamp? g
    let found ← s.instant?
    return found.map .date

/-- What a text asks for in the format, found with checks, and the events. -/
def checkedWait (f : Format) (now : ClockTime) (text : String) : Option (Logged (Option Span)) :=
  match f.captures? text.toList with
  | none => some ⟨none, []⟩
  | some g =>
    match f.convert? text.toList g with
    | none => none
    | some (.error fault) => some ⟨none, [.unreadable f text fault]⟩
    | some (.ok (.delay d)) => some ⟨some d, []⟩
    | some (.ok (.date t)) => (t.until? now).map fun d => ⟨some d, []⟩

/-- What a format with a layout reads is a stamp that the groups of its pattern keep. -/
theorem exists_keeps {f : Format} {l : Layout} (hl : f.layout? = some l) {cs : List Char} {g : Captures}
    (h : f.captures? cs = some g) : ∃ s, l.Keeps g s ∧ f.read cs = some (s.instant.map .date) := by
  cases f with
  | imfFixdate =>
    cases hl
    obtain ⟨t, ht, rfl⟩ := Option.map_eq_some_iff.1 h
    refine ⟨t.stamp, ImfText.keeps_stamp (ImfText.scan_eq_some_iff.1 ht).1, ?_⟩
    rw [read, Header.imfFixdate, ht]
    rfl
  | rfc850 =>
    cases hl
    obtain ⟨t, ht, rfl⟩ := Option.map_eq_some_iff.1 h
    refine ⟨t.stamp, Rfc850Text.keeps_stamp (Rfc850Text.scan_eq_some_iff.1 ht).1, ?_⟩
    rw [read, Header.rfc850, ht]
    rfl
  | asctime =>
    cases hl
    obtain ⟨t, ht, rfl⟩ := Option.map_eq_some_iff.1 h
    refine ⟨t.stamp, AsctimeText.keeps_stamp (AsctimeText.scan_eq_some_iff.1 ht).1, ?_⟩
    rw [read, Header.asctime, ht]
    rfl
  | _ => cases hl

/-- A stamp that is kept by the groups is read with checks as without. -/
theorem convert?_of_keeps {f : Format} {cs : List Char} {g : Captures} {l : Layout} {s : Stamp} (hl : f.layout? = some l)
    (h : l.Keeps g s) : f.convert? cs g = some (s.instant.map .date) := by
  cases f with
  | imfFixdate => simp [convert?, hl, h.stamp?_eq, s.instant?_eq]
  | rfc850 => simp [convert?, hl, h.stamp?_eq, s.instant?_eq]
  | asctime => simp [convert?, hl, h.stamp?_eq, s.instant?_eq]
  | _ => cases hl

/-- The steps that read a text can be taken on what the groups of its pattern have taken. -/
structure Admits (f : Format) (g : Captures) : Prop where
  /-- A group that is asked for is there. -/
  indexed : ∀ n ∈ f.indexed, ∃ v, g.lookup n = some v
  /-- What is read as a number consists of digits, and it does not grow out of 32 bits. -/
  counted : ∀ n ∈ f.counted, (part g n).all Char.isDigit = true ∧ ∃ k, number? 32 (part g n) = some k
  /-- So do the thousandths of a second, in 64 bits. -/
  thousandths : f = decimalSeconds → (thousandths g).all Char.isDigit = true ∧ ∃ k, number? 64 (thousandths g) = some k
  /-- The calendar is asked for a year from 0 to 9999. -/
  year_le : ∀ l ∈ f.layout?, ∃ s, l.stamp? g = some s ∧ s.year ≤ 9999

theorem admits_of_keeps {f : Format} {g : Captures} {l : Layout} {s : Stamp} (hl : f.layout? = some l) (h : l.Keeps g s) :
    f.Admits g := by
  have hindexed : f.indexed = l.indexed := by
    cases f with
    | imfFixdate | rfc850 | asctime =>
      cases hl
      rfl
    | _ => cases hl
  have hcounted : f.counted = l.counted := by
    cases f with
    | imfFixdate | rfc850 | asctime =>
      cases hl
      rfl
    | _ => cases hl
  refine ⟨?_, ?_, ?_, ?_⟩
  · rw [hindexed]
    exact h.exists_lookup
  · rw [hcounted]
    intro n hn
    obtain ⟨k, hk⟩ := h.exists_counts n hn
    exact ⟨hk.1.1, k, hk.number?_eq⟩
  · rintro rfl
    cases hl
  · intro l' hl'
    obtain rfl := Option.some.inj (hl.symm.trans hl')
    exact ⟨s, h.stamp?_eq, h.year_le⟩

/-- The pattern of a format lets through only what its steps can be taken on, and then the steps read what the format does. -/
theorem admits_and_convert?_eq {f : Format} {cs : List Char} {g : Captures} (h : f.captures? cs = some g) :
    f.Admits g ∧ f.convert? cs g = f.read cs := by
  cases hl : f.layout? with
  | some l =>
    obtain ⟨s, hkeeps, hread⟩ := exists_keeps hl h
    rw [hread]
    exact ⟨admits_of_keeps hl hkeeps, convert?_of_keeps hl hkeeps⟩
  | none =>
    have hyear : ∀ l ∈ f.layout?, ∃ s, l.stamp? g = some s ∧ s.year ≤ 9999 := by
      intro l hlayout
      rw [hl] at hlayout
      cases hlayout
    cases f with
    | wholeSeconds =>
      obtain ⟨hshape, -⟩ := Option.ite_none_right_eq_some.1 h
      obtain ⟨hne, hd⟩ := hasShape_wholeSeconds_iff.1 hshape
      refine ⟨⟨List.forall_mem_nil _, List.forall_mem_nil _, fun hf => absurd hf (by decide), hyear⟩, ?_⟩
      rw [read, wholeSeconds_of_digits hne hd]
      rfl
    | decimalSeconds =>
      obtain ⟨t, ht, rfl⟩ := Option.map_eq_some_iff.1 h
      obtain ⟨hfits, -⟩ := DecimalText.scan_eq_some_iff.1 ht
      have hwhole : t.groups.lookup 1 = some t.whole := rfl
      have hmillis := DecimalText.number?_thousandths hfits
      constructor
      · refine ⟨?_, List.forall_mem_nil _, fun _ => ⟨DecimalText.all_isDigit_thousandths hfits, _, hmillis⟩, hyear⟩
        rw [indexed, List.forall_mem_singleton]
        exact ⟨t.whole, hwhole⟩
      · simp [convert?, hwhole, hmillis, read, Header.decimalSeconds, ht, DecimalText.millis]
    | iso8601 =>
      obtain ⟨t, ht, rfl⟩ := Option.map_eq_some_iff.1 h
      obtain ⟨⟨-, -, -, -, -, -, lh, ph, lm, pm, ls, ps, -⟩, -⟩ := IsoText.scan_eq_some_iff.1 ht
      have hour : Counts t.groups 1 (value t.hour) := ⟨⟨ph, Nat.le_trans (Nat.le_of_eq lh) (by decide)⟩, rfl⟩
      have minute : Counts t.groups 2 (value t.minute) := ⟨⟨pm, Nat.le_trans (Nat.le_of_eq lm) (by decide)⟩, rfl⟩
      have second : Counts t.groups 3 (value t.second) := ⟨⟨ps, Nat.le_trans (Nat.le_of_eq ls) (by decide)⟩, rfl⟩
      constructor
      · refine ⟨List.forall_mem_nil _, ?_, fun hf => absurd hf (by decide), hyear⟩
        simp only [counted, List.forall_mem_cons]
        exact ⟨⟨ph, _, hour.number?_eq⟩, ⟨pm, _, minute.number?_eq⟩, ⟨ps, _, second.number?_eq⟩, List.forall_mem_nil _⟩
      · rw [read, Header.iso8601, ht, convert?, hour.number?_eq, minute.number?_eq, second.number?_eq, ht]
        simp only [Option.bind_eq_bind, Option.bind_some, Option.map_some, IsoText.instant, IsoText.time]
        rcases orFault (TimeOfDay.ofFields? (value t.hour) (value t.minute) (value t.second)) _ with fault | time
        · rfl
        · rcases t.date with fault | date
          · rfl
          · rfl
    | _ => cases hl

theorem exists_captures? {f : Format} {cs : List Char} {e : Except Fault Heading} (h : f.read cs = some e) :
    ∃ g, f.captures? cs = some g := by
  obtain ⟨g, hg⟩ := hasShape_iff_matches.1 (hasShape_of_read h)
  exact ⟨g, matches_iff_captures?.1 hg⟩

/-- A date that is read is in the calendar. -/
theorem inCalendar_of_read {f : Format} {cs : List Char} {t : Instant} (h : f.read cs = some (.ok (.date t))) :
    t.InCalendar := by
  cases hl : f.layout? with
  | some l =>
    obtain ⟨g, hg⟩ := exists_captures? h
    obtain ⟨s, -, hread⟩ := exists_keeps hl hg
    obtain ⟨_, hinstant, hdate⟩ := map_eq_ok_iff.1 ((Option.map_some ..).trans (hread.symm.trans h))
    cases hdate
    obtain ⟨d, time, zone, -, rfl⟩ := Stamp.instant_eq_ok_iff.1 (Option.some.inj hinstant)
    exact Instant.inCalendar_ofCivil d time zone _
  | none =>
    cases f with
    | wholeSeconds =>
      obtain ⟨_, -, hdelay⟩ := map_eq_ok_iff.1 h
      cases hdelay
    | decimalSeconds =>
      obtain ⟨_, -, hdelay⟩ := map_eq_ok_iff.1 h
      cases hdelay
    | iso8601 =>
      obtain ⟨_, hread, hdate⟩ := map_eq_ok_iff.1 h
      cases hdate
      obtain ⟨parts, -, hinstant⟩ := Option.map_eq_some_iff.1 hread
      obtain ⟨d, time, -, rfl⟩ := IsoText.instant_eq_ok_iff.1 hinstant
      exact Instant.inCalendar_ofCivil d time _ _
    | _ => cases hl

/-- With checks a text asks for the same as without, and leaves the same events. -/
theorem checkedWait_eq {now : ClockTime} (hn : now.InCalendar) (f : Format) (text : String) :
    f.checkedWait now text = some (f.wait now text) := by
  rw [checkedWait, wait, heading]
  cases hg : f.captures? text.toList with
  | none =>
    have hread : f.read text.toList = none := by
      rw [← Option.not_isSome_iff_eq_none, ← hasShape, hasShape_iff_matches]
      rintro ⟨g, hmatches⟩
      rw [matches_iff_captures?, hg] at hmatches
      cases hmatches
    rw [hread]
    rfl
  | some g =>
    have hshape : f.hasShape text.toList = true := hasShape_iff_matches.2 ⟨g, matches_iff_captures?.2 hg⟩
    simp only [(admits_and_convert?_eq hg).2]
    rcases hread : f.read text.toList with _ | fault | d | t
    · rw [hasShape, hread] at hshape
      cases hshape
    · rfl
    · rfl
    · simp only [Instant.until?_eq (inCalendar_of_read hread) hn]
      rfl

end Format

namespace Format

/-- A zone that is not known was named by the text, in the last group of its pattern, and is none of the zones. -/
theorem zone_of_fault? {f : Format} {cs : List Char} {name : String} (h : f.fault? cs = some (.unknownZone name)) :
    ∃ g, f.pattern.Matches cs g ∧ g.lookup 8 = some name.toList ∧
      ¬∃ zone : Zone, sameName zone.abbreviation.toList name.toList = true := by
  have hread := fault?_eq_some_iff.1 h
  cases hl : f.layout? with
  | some l =>
    obtain ⟨g, hg⟩ := exists_captures? hread
    obtain ⟨s, hkeeps, hstamp⟩ := exists_keeps hl hg
    have hfound := Option.some.inj (map_eq_error_iff.1 ((Option.map_some ..).trans (hstamp.symm.trans hread)))
    obtain ⟨hfault, -⟩ := Stamp.isFirst_of_error hfound
    cases hfault with
    | zone hnone =>
      rw [String.toList_ofList]
      refine ⟨g, matches_iff_captures?.2 hg, ?_, hnone⟩
      cases f with
      | rfc850 =>
        cases hl
        exact hkeeps.zone
      | imfFixdate | asctime =>
        -- without a name the zone is universal time, which is known
        cases hl
        exact absurd ⟨.gmt, Option.some.inj hkeeps.zone ▸ by decide⟩ hnone
      | _ => cases hl
  | none =>
    cases f with
    | wholeSeconds =>
      obtain ⟨-, hfault⟩ := fault?_wholeSeconds_eq_some_iff.1 h
      cases hfault
    | decimalSeconds =>
      rw [read, map_eq_error_iff, Header.decimalSeconds, Option.map_eq_some_iff] at hread
      obtain ⟨t, -, hfound⟩ := hread
      obtain ⟨-, hfault⟩ := orFault_eq_error_iff.1 hfound
      cases hfault
    | iso8601 =>
      rw [read, map_eq_error_iff, Header.iso8601, Option.map_eq_some_iff] at hread
      obtain ⟨t, -, hfound⟩ := hread
      obtain ⟨hfault, -⟩ := IsoText.isFirst_of_error hfound
      cases hfault
    | _ => cases hl

/-- Reading never comes to a step that it cannot take, whatever the text, the format and the time of the calendar that its clock
shows, in a leap second or not. With checks at each step the same wait is found and the same events are left. What a pattern lets
through has the groups that are asked for, digits in all that is read as a number, numbers that do not grow out of 32 bits or, in
thousandths, of 64, and a year from 0 to 9999, also where it is of an ISO instant. Every zone has an offset of less than a day and
takes no date out of the calendar, so that a zone is unknown only if a text names one that is not there. No date that is read is
too far from the clock. -/
theorem every_step_can_be_taken :
    (∀ (f : Format) (now : ClockTime) (text : String), now.InCalendar →
      f.checkedWait now text = some (f.wait now text)) ∧
    (∀ (f : Format) (cs : List Char) (g : Captures), f.pattern.Matches cs g → f.Admits g) ∧
    (∀ t : IsoText, t.WellFormed → value t.year ≤ 9999) ∧
    (∀ zone : Zone, zone.offset? = some (zone.hoursAhead * 3600)) ∧
    (∀ (d : Date) (t : TimeOfDay) (zone : Zone),
      Instant.inZone? d t zone = some (Instant.ofCivil d t zone (Instant.fraction 0))) ∧
    (∀ (f : Format) (cs : List Char) (name : String), f.fault? cs = some (.unknownZone name) →
      ∃ g, f.pattern.Matches cs g ∧ g.lookup 8 = some name.toList ∧
        ¬∃ zone : Zone, sameName zone.abbreviation.toList name.toList = true) ∧
    (∀ (f : Format) (cs : List Char) (t : Instant) (now : ClockTime), f.read cs = some (.ok (.date t)) → now.InCalendar →
      t.until? now = some (t.since now)) := by
  refine ⟨?steps, ?groups, ?years, Zone.offset?_eq, Instant.inZone?_eq, ?zones, ?distances⟩
  case steps =>
    intro f now text hn
    exact checkedWait_eq hn f text
  case groups =>
    intro f cs g hmatches
    exact (admits_and_convert?_eq (matches_iff_captures?.1 hmatches)).1
  case years =>
    rintro t ⟨ly, py, -⟩
    exact value_le_of_length py ly
  case zones =>
    intro f cs name hfault
    exact zone_of_fault? hfault
  case distances =>
    intro f cs t now hread hn
    exact Instant.until?_eq (inCalendar_of_read hread) hn

/-- The last evening of 2099 in New York is measured from the first day of the calendar, in a leap second after its first minute,
and a date whose zone is unknown has named it. -/
theorem steps_taken_from_first_day :
    let now : ClockTime := ⟨-8334601228741, 1500000000, by decide, by decide, by decide⟩
    let evening : Instant := ⟨4102444800000000000, by decide, by decide⟩
    let text := "Thursday, 31-Dec-99 19:00:00 EST"
    rfc850.checkedWait now text = some ⟨some (evening.since now), []⟩ ∧ evening.until? now = some (evening.since now) ∧
    (∃ g, rfc850.pattern.Matches text.toList g ∧ rfc850.Admits g) ∧
    (∃ g, rfc850.pattern.Matches "1-Jan-03 0:00 CEX".toList g ∧ g.lookup 8 = some "CEX".toList) ∧
    value "2003".toList ≤ 9999 := by
  intro now evening text
  obtain ⟨hsteps, hgroups, hyears, -, -, hzones, hdistances⟩ := every_step_can_be_taken
  have hn : now.InCalendar := by decide
  have hheading : (rfc850.heading text).value = some (.date evening) := by decide +kernel
  have hread := value_heading_eq_some_iff.1 hheading
  refine ⟨?_, hdistances rfc850 text.toList evening now hread hn, ?_, ?_, ?_⟩
  · rw [hsteps rfc850 now text hn, wait, heading, hread]
    rfl
  · obtain ⟨g, hg⟩ := exists_captures? hread
    have hmatches := matches_iff_captures?.2 hg
    exact ⟨g, hmatches, hgroups rfc850 text.toList g hmatches⟩
  · have hfault : rfc850.fault? "1-Jan-03 0:00 CEX".toList = some (.unknownZone "CEX") := by decide +kernel
    obtain ⟨g, hmatches, hzone, -⟩ := hzones rfc850 _ "CEX" hfault
    exact ⟨g, hmatches, hzone⟩
  · let t : IsoText := ⟨"2003".toList, "01".toList, "02".toList, "01".toList, "23".toList, "45".toList, none⟩
    have hscan : IsoText.scan t.text = some t := by decide
    exact hyears t (IsoText.scan_eq_some_iff.1 hscan).1

end Format

end RetryPolicy
