import Mathlib.Data.Prod.Lex
import RetryPolicy.Proofs.IsoInstants
import RetryPolicy.Proofs.ZonedDates

/-!
# Later dates are later instants

Of two dates in one format the later one is the one whose first number that differs is larger, going from the year down to the
fraction of a second; and two dates name one instant exactly when they are written with the same numbers
(`instants_in_order_of_numbers`). Dates of RFC 850 are compared in one zone.

The calendar has the order of its numbers because a month has ended when the next begins and a year has ended when the next
begins (`Date.dayNumber_lt_iff`). A day is longer than every time of day and a second longer than every fraction of one, so the
instants have that order too (`Instant.ofCivil_lt_iff`). What a format adds is which numbers a text shows.
-/

namespace RetryPolicy

open Text Header

/-! ## The order of dates and of times of day -/

/-- A date of an earlier year comes earlier. -/
theorem Date.dayNumber_lt_of_year {d e : Date} (h : d.year < e.year) : d.dayNumber < e.dayNumber := by
  have hnext : d.year + 1 ≤ e.year := h
  calc d.dayNumber
    _ < daysBeforeYear (d.year + 1) := d.dayNumber_lt_year
    _ ≤ daysBeforeYear e.year := daysBeforeYear_le hnext
    _ ≤ e.dayNumber := (Nat.le_add_right _ _).trans (Nat.le_add_right _ _)

/-- A date of an earlier month in the same year comes earlier. -/
theorem Date.dayNumber_lt_of_month {d e : Date} (hy : d.year = e.year) (h : d.month.number < e.month.number) :
    d.dayNumber < e.dayNumber := by
  have hmonths := Month.daysBefore_add_length_le_of_lt (isLeap e.year) h
  have hpos := d.day_pos
  have hle := d.day_le
  unfold dayNumber
  rw [hy] at hle ⊢
  omega

/-- The days are numbered in the order of their years, months and days of the month. -/
theorem Date.dayNumber_lt_iff (d e : Date) :
    d.dayNumber < e.dayNumber ↔
      d.year < e.year ∨
        d.year = e.year ∧ (d.month.number < e.month.number ∨ d.month.number = e.month.number ∧ d.day < e.day) := by
  rcases Nat.lt_trichotomy d.year e.year with hy | hy | hy
  · have h := dayNumber_lt_of_year hy
    omega
  · rcases Nat.lt_trichotomy d.month.number e.month.number with hm | hm | hm
    · have h := dayNumber_lt_of_month hy hm
      omega
    · have hd := d.day_pos
      have he := e.day_pos
      unfold dayNumber
      rw [hy, Month.number_inj hm]
      omega
    · have h := dayNumber_lt_of_month hy.symm hm
      omega
  · have h := dayNumber_lt_of_year hy
    omega

theorem Date.dayNumber_eq_iff (d e : Date) :
    d.dayNumber = e.dayNumber ↔ d.year = e.year ∧ d.month.number = e.month.number ∧ d.day = e.day := by
  have hlt := dayNumber_lt_iff d e
  have hgt := dayNumber_lt_iff e d
  omega

theorem TimeOfDay.seconds_lt_iff (t u : TimeOfDay) :
    t.seconds < u.seconds ↔
      t.hour < u.hour ∨ t.hour = u.hour ∧ (t.minute < u.minute ∨ t.minute = u.minute ∧ t.second < u.second) := by
  have htm := t.minute_lt
  have hts := t.second_lt
  have hum := u.minute_lt
  have hus := u.second_lt
  unfold seconds
  omega

theorem TimeOfDay.seconds_eq_iff (t u : TimeOfDay) :
    t.seconds = u.seconds ↔ t.hour = u.hour ∧ t.minute = u.minute ∧ t.second = u.second := by
  have hlt := seconds_lt_iff t u
  have hgt := seconds_lt_iff u t
  omega

/-- In one zone the later instant is that of the later day, on one day that of the later time, and at one time that of the
larger fraction of a second. -/
theorem Instant.ofCivil_lt_iff (zone : Zone) (d e : Date) (t u : TimeOfDay) (f g : Fin 1000000000) :
    ofCivil d t zone f < ofCivil e u zone g ↔
      d.dayNumber < e.dayNumber ∨
        d.dayNumber = e.dayNumber ∧ (t.seconds < u.seconds ∨ t.seconds = u.seconds ∧ f.val < g.val) := by
  have ht := t.seconds_lt
  have hu := u.seconds_lt
  have hf := f.isLt
  have hg := g.isLt
  rw [lt_iff]
  simp only [ofCivil]
  omega

namespace Header

/-! ## Numbers of a date -/

/-- The numbers that a date is written with, in the order in which they count. A month has its number, and a second or a
fraction of a second that is not written is zero. -/
@[ext]
structure Numbers where
  year : ℕ
  month : ℕ
  day : ℕ
  hour : ℕ
  minute : ℕ
  second : ℕ
  fraction : ℚ

namespace Numbers

/-- The numbers one after the other: of two dates the first number that differs says which comes earlier. -/
def key (n : Numbers) : ℕ ×ₗ ℕ ×ₗ ℕ ×ₗ ℕ ×ₗ ℕ ×ₗ ℕ ×ₗ ℚ :=
  toLex (n.year, toLex (n.month, toLex (n.day, toLex (n.hour, toLex (n.minute, toLex (n.second, n.fraction))))))

theorem key_injective : Function.Injective key := by
  intro m n h
  simp only [key, EmbeddingLike.apply_eq_iff_eq, Prod.mk.injEq] at h
  obtain ⟨h1, h2, h3, h4, h5, h6, h7⟩ := h
  exact Numbers.ext h1 h2 h3 h4 h5 h6 h7

/-- The lexicographic order. -/
instance : LinearOrder Numbers := LinearOrder.lift' key key_injective

theorem lt_iff (m n : Numbers) :
    m < n ↔
      m.year < n.year ∨ m.year = n.year ∧ (m.month < n.month ∨ m.month = n.month ∧ (m.day < n.day ∨ m.day = n.day ∧
        (m.hour < n.hour ∨ m.hour = n.hour ∧ (m.minute < n.minute ∨ m.minute = n.minute ∧
          (m.second < n.second ∨ m.second = n.second ∧ m.fraction < n.fraction))))) := by
  show m.key < n.key ↔ _
  simp only [key, Prod.Lex.toLex_lt_toLex]

/-- The numbers of a date and a time of day, with a fraction of a second in nanoseconds. -/
def ofCivil (d : Date) (t : TimeOfDay) (f : Fin 1000000000) : Numbers :=
  ⟨d.year, d.month.number, d.day, t.hour, t.minute, t.second, (f.val : ℚ) / 10 ^ 9⟩

/-- The instants in one zone have the order of the numbers. -/
theorem ofCivil_lt_iff (zone : Zone) (d e : Date) (t u : TimeOfDay) (f g : Fin 1000000000) :
    Instant.ofCivil d t zone f < Instant.ofCivil e u zone g ↔ ofCivil d t f < ofCivil e u g := by
  have hfraction : (f.val : ℚ) / 10 ^ 9 < (g.val : ℚ) / 10 ^ 9 ↔ f.val < g.val := by
    rw [div_lt_div_iff_of_pos_right (by positivity), Nat.cast_lt]
  rw [Instant.ofCivil_lt_iff, Numbers.lt_iff]
  simp only [ofCivil, hfraction, Date.dayNumber_lt_iff, Date.dayNumber_eq_iff, TimeOfDay.seconds_lt_iff,
    TimeOfDay.seconds_eq_iff, or_assoc, and_assoc, and_or_left]

end Numbers

/-! ## Numbers of a text -/

/-- A stamp names a zone and a month, in any case, and has the other numbers; it has no fraction of a second. -/
def Stamp.Shows (s : Stamp) (zone : Zone) (n : Numbers) : Prop :=
  sameName zone.abbreviation.toList s.zone = true ∧
    ∃ m : Month, sameName m.abbreviation.toList s.month = true ∧
      n = ⟨s.year, m.number, s.day, s.hour, s.minute, s.second, 0⟩

/-- An ISO-8601 instant has all numbers in digits, and they are in universal time. -/
def IsoText.Shows (t : IsoText) (zone : Zone) (n : Numbers) : Prop :=
  zone = .utc ∧
    n = ⟨value t.year, value t.month, value t.day, value t.hour, value t.minute, value t.second,
      pointValue [] (t.fraction.getD [])⟩

/-- A stamp of a date and a time of day in a zone shows their numbers and no others. -/
theorem Stamp.Says.shows_iff {s : Stamp} {d : Date} {t : TimeOfDay} {zone : Zone} (h : s.Says d t zone) {other : Zone}
    {n : Numbers} : s.Shows other n ↔ other = zone ∧ n = Numbers.ofCivil d t (Instant.fraction 0) := by
  have hnumbers : Numbers.ofCivil d t (Instant.fraction 0) =
      ⟨s.year, d.month.number, s.day, s.hour, s.minute, s.second, 0⟩ := by
    have hzero : (((Instant.fraction 0).val : ℕ) : ℚ) / 10 ^ 9 = 0 := by simp [Instant.fraction]
    rw [Numbers.ofCivil, hzero, h.year, h.day, h.hour, h.minute, h.second]
  rw [hnumbers, Shows, ← Zone.ofName?_eq_some_iff, h.zone]
  constructor
  · rintro ⟨hz, m, hm, rfl⟩
    rw [← Month.ofName?_eq_some_iff, h.month] at hm
    cases hm
    exact ⟨(Option.some.inj hz).symm, rfl⟩
  · rintro ⟨rfl, rfl⟩
    exact ⟨rfl, d.month, Month.ofName?_eq_some_iff.1 h.month, rfl⟩

/-- So do the parts of an ISO-8601 instant, with their fraction of a second. -/
theorem IsoText.Says.shows_iff {t : IsoText} (hw : t.WellFormed) {d : Date} {time : TimeOfDay} (h : t.Says d time)
    {zone : Zone} {n : Numbers} :
    t.Shows zone n ↔ zone = .utc ∧ n = Numbers.ofCivil d time (Instant.fraction t.nanos) := by
  have hfraction : (((Instant.fraction t.nanos).val : ℕ) : ℚ) / 10 ^ 9 = pointValue [] (t.fraction.getD []) := by
    rw [Instant.val_fraction (IsoText.nanos_lt hw), IsoText.nanos_eq hw, mul_div_cancel_right₀ _ (by positivity)]
  rw [Shows, Numbers.ofCivil, hfraction, h.year, ← Month.ofNumber?_eq_some_iff.1 h.month, h.day, h.hour, h.minute, h.second]

section Parts

variable {Parts : Type} {scan : List Char → Option Parts} {text : Parts → List Char} {WellFormed : Parts → Prop}

/-- What a text shows in a format: what the parts show that it can be split into. -/
def ShowsIn (WellFormed : Parts → Prop) (text : Parts → List Char) (shows : Parts → Zone → Numbers → Prop)
    (cs : List Char) (zone : Zone) (n : Numbers) : Prop :=
  ∃ parts, (WellFormed parts ∧ text parts = cs) ∧ shows parts zone n

/-- There is one way to split a text. -/
theorem showsIn_iff (hscan : ∀ {cs parts}, scan cs = some parts ↔ WellFormed parts ∧ text parts = cs)
    {shows : Parts → Zone → Numbers → Prop} {parts : Parts} (hp : WellFormed parts) {zone : Zone} {n : Numbers} :
    ShowsIn WellFormed text shows (text parts) zone n ↔ shows parts zone n := by
  constructor
  · rintro ⟨others, ⟨ho, htext⟩, h⟩
    rw [parts_unique hscan hp ho htext.symm]
    exact h
  · intro h
    exact ⟨parts, ⟨hp, rfl⟩, h⟩

/-! ## The order of what is read -/

/-- A format reads instants in the order of the numbers that it shows. Every text that is read shows numbers, one for each place,
in one zone. Of two texts that are read in the same zone, the one with the smaller numbers is read as the earlier instant, and
they are read as the same instant exactly when they show the same numbers. -/
structure ReadsInOrder (read : List Char → Reading Instant) (shows : List Char → Zone → Numbers → Prop) : Prop where
  shown : ∀ cs i, read cs = some (.ok i) → ∃! p : Zone × Numbers, shows cs p.1 p.2
  lt_iff : ∀ cs other i j, read cs = some (.ok i) → read other = some (.ok j) →
    ∀ zone m n, shows cs zone m → shows other zone n → (i < j ↔ m < n)
  eq_iff : ∀ cs other i j, read cs = some (.ok i) → read other = some (.ok j) →
    ∀ zone m n, shows cs zone m → shows other zone n → (i = j ↔ m = n)

/-- A format reads in order if every text is read as the instant of a date and a time of day in a zone, and shows just their
numbers. -/
theorem readsInOrder_of_civil {read : List Char → Reading Instant} {shows : List Char → Zone → Numbers → Prop}
    (h : ∀ cs i, read cs = some (.ok i) → ∃ d t zone f, i = Instant.ofCivil d t zone f ∧
      ∀ other n, shows cs other n ↔ other = zone ∧ n = Numbers.ofCivil d t f) :
    ReadsInOrder read shows := by
  have hlt : ∀ cs other i j, read cs = some (.ok i) → read other = some (.ok j) →
      ∀ zone m n, shows cs zone m → shows other zone n → (i < j ↔ m < n) := by
    intro cs other i j hi hj zone m n hm hn
    obtain ⟨d, t, far, f, rfl, hshows⟩ := h cs i hi
    obtain ⟨e, u, near, g, rfl, hothers⟩ := h other j hj
    obtain ⟨rfl, rfl⟩ := (hshows zone m).1 hm
    obtain ⟨rfl, rfl⟩ := (hothers zone n).1 hn
    exact Numbers.ofCivil_lt_iff zone d e t u f g
  refine ⟨?_, hlt, ?_⟩
  · intro cs i hi
    obtain ⟨d, t, zone, f, -, hshows⟩ := h cs i hi
    refine ⟨(zone, Numbers.ofCivil d t f), (hshows _ _).2 ⟨rfl, rfl⟩, ?_⟩
    rintro ⟨other, n⟩ hn
    obtain ⟨rfl, rfl⟩ := (hshows other n).1 hn
    rfl
  · intro cs other i j hi hj zone m n hm hn
    have hij := hlt cs other i j hi hj zone m n hm hn
    have hji := hlt other cs j i hj hi zone n m hn hm
    -- Neither is less than the other, on both sides.
    rw [Instant.lt_iff] at hij hji
    constructor
    · rintro rfl
      exact le_antisymm (not_lt.1 (mt hji.2 (Int.lt_irrefl _))) (not_lt.1 (mt hij.2 (Int.lt_irrefl _)))
    · rintro rfl
      have hle := mt hij.1 (lt_irrefl m)
      have hge := mt hji.1 (lt_irrefl m)
      exact Instant.ext (by omega)

/-- A format that reads what the stamp of its parts says reads in order. -/
theorem readsInOrder_of_stamp (hscan : ∀ {cs parts}, scan cs = some parts ↔ WellFormed parts ∧ text parts = cs)
    (stamp : Parts → Stamp) :
    ReadsInOrder (fun cs => (scan cs).map fun parts => (stamp parts).instant)
      (ShowsIn WellFormed text fun parts => (stamp parts).Shows) := by
  apply readsInOrder_of_civil
  intro cs i hread
  obtain ⟨parts, ⟨hw, rfl⟩, hi⟩ := (read_parts_iff hscan).1 hread
  obtain ⟨d, t, zone, hs, rfl⟩ := Stamp.instant_eq_ok_iff.1 hi
  refine ⟨d, t, zone, Instant.fraction 0, rfl, ?_⟩
  intro other n
  rw [showsIn_iff hscan hw]
  exact hs.shows_iff

end Parts

theorem IsoText.readsInOrder : ReadsInOrder iso8601 (ShowsIn WellFormed text Shows) := by
  apply readsInOrder_of_civil
  intro cs i hread
  obtain ⟨parts, ⟨hw, rfl⟩, hi⟩ := (read_parts_iff scan_eq_some_iff).1 hread
  obtain ⟨d, time, hs, rfl⟩ := instant_eq_ok_iff.1 hi
  refine ⟨d, time, .utc, Instant.fraction parts.nanos, rfl, ?_⟩
  intro zone n
  rw [showsIn_iff scan_eq_some_iff hw]
  exact Says.shows_iff hw hs

/-- Dates are read in the order in which they are written. In each of the four formats a text that is read shows a year, a month,
a day, an hour, a minute, a second and a fraction of a second, the last two being zero where they are not written, in a zone.
Of two texts in one format and one zone the one that comes first in the lexicographic order of these numbers is read as the
earlier instant, and both are read as the same instant exactly when all the numbers are the same. -/
theorem instants_in_order_of_numbers :
    ReadsInOrder imfFixdate (ShowsIn ImfText.WellFormed ImfText.text fun t => t.stamp.Shows) ∧
    ReadsInOrder asctime (ShowsIn AsctimeText.WellFormed AsctimeText.text fun t => t.stamp.Shows) ∧
    ReadsInOrder iso8601 (ShowsIn IsoText.WellFormed IsoText.text IsoText.Shows) ∧
    ReadsInOrder rfc850 (ShowsIn Rfc850Text.WellFormed Rfc850Text.text fun t => t.stamp.Shows) := by
  refine ⟨?_, ?_, ?_, ?_⟩
  · exact readsInOrder_of_stamp ImfText.scan_eq_some_iff ImfText.stamp
  · exact readsInOrder_of_stamp AsctimeText.scan_eq_some_iff AsctimeText.stamp
  · exact IsoText.readsInOrder
  · exact readsInOrder_of_stamp Rfc850Text.scan_eq_some_iff Rfc850Text.stamp

/-- In one zone a new year comes after the last second of the old one, although all its numbers but the year are smaller. -/
theorem new_year_after_last_second :
    let last : Instant := ⟨1072943999 * 1000000000, by decide, by decide⟩
    let first : Instant := ⟨1072944000 * 1000000000, by decide, by decide⟩
    rfc850 "Wed, 31-Dec-03 23:59:59 PST".toList = some (.ok last) ∧ rfc850 "1-Jan-04 0:00 pst".toList = some (.ok first) ∧
      last < first := by
  intro last first
  have hlast : rfc850 "Wed, 31-Dec-03 23:59:59 PST".toList = some (.ok last) := by decide +kernel
  have hfirst : rfc850 "1-Jan-04 0:00 pst".toList = some (.ok first) := by decide +kernel
  have hold : ShowsIn Rfc850Text.WellFormed Rfc850Text.text (fun t => t.stamp.Shows)
      "Wed, 31-Dec-03 23:59:59 PST".toList .pst ⟨2003, 12, 31, 23, 59, 59, 0⟩ := by
    refine ⟨⟨some ⟨['W', 'e', 'd'], [' ']⟩, ['3', '1'], ['D', 'e', 'c'], ['0', '3'], ' ',
      ⟨['2', '3'], ['5', '9'], some ['5', '9']⟩, ' ', ['P', 'S', 'T']⟩, ⟨⟨?_, .inr rfl, ?_⟩, rfl⟩, rfl, .december, rfl, rfl⟩
    · rintro _ ⟨⟩
      exact ⟨nofun, rfl, rfl, rfl⟩
    · exact ⟨rfl, rfl, rfl, rfl, rfl, rfl, ⟨.inr rfl, rfl, rfl, rfl, by rintro _ ⟨⟩; exact ⟨rfl, rfl⟩⟩, rfl, nofun, rfl⟩
  have hnew : ShowsIn Rfc850Text.WellFormed Rfc850Text.text (fun t => t.stamp.Shows)
      "1-Jan-04 0:00 pst".toList .pst ⟨2004, 1, 1, 0, 0, 0, 0⟩ :=
    ⟨⟨none, ['1'], ['J', 'a', 'n'], ['0', '4'], ' ', ⟨['0'], ['0', '0'], none⟩, ' ', ['p', 's', 't']⟩,
      ⟨⟨nofun, .inl rfl, rfl, rfl, rfl, rfl, rfl, rfl, ⟨.inl rfl, rfl, rfl, rfl, nofun⟩, rfl, nofun, rfl⟩, rfl⟩, rfl, .january, rfl,
      rfl⟩
  have hnumbers : (⟨2003, 12, 31, 23, 59, 59, 0⟩ : Numbers) < ⟨2004, 1, 1, 0, 0, 0, 0⟩ :=
    (Numbers.lt_iff _ _).2 (.inl (by decide))
  exact ⟨hlast, hfirst, (instants_in_order_of_numbers.2.2.2.lt_iff _ _ _ _ hlast hfirst _ _ _ hold hnew).2 hnumbers⟩

end Header

end RetryPolicy
