import RetryPolicy.Time.Instant

/-!
# From instants back to dates

Every day number below 3652425 is that of one date and no other: `Date.ofDayNumber?` finds it, and `dayNumber_inj` and
`exists_dayNumber_eq` say that the search is exact. So an instant of the years 0 to 9999 has one date and one time of
day in universal time, `Instant.date?` and `Instant.timeOfDay`, and `ofCivil_date?` puts them together again.
-/

namespace RetryPolicy

theorem daysBeforeYear_le {a b : Nat} (h : a ≤ b) : daysBeforeYear a ≤ daysBeforeYear b := by
  induction h with
  | refl => exact Nat.le_refl _
  | step _ ih =>
    rw [daysBeforeYear_succ]
    omega

/-- The year that a day number falls in. A year of the mean length, 146097 days in 400 years, is off by one at most. -/
def yearOfDay (n : Nat) : Nat :=
  let year := n * 400 / 146097
  if n < daysBeforeYear year then year - 1 else if daysBeforeYear (year + 1) ≤ n then year + 1 else year

theorem yearOfDay_eq {n year : Nat} (hl : daysBeforeYear year ≤ n) (hu : n < daysBeforeYear (year + 1)) :
    yearOfDay n = year := by
  have lower : year ≤ n * 400 / 146097 + 1 := by
    unfold daysBeforeYear at hl
    omega
  have upper : n * 400 / 146097 ≤ year + 1 := by
    unfold daysBeforeYear at hu
    omega
  unfold yearOfDay
  generalize n * 400 / 146097 = guess at *
  simp only
  split
  · rename_i h
    rcases Nat.lt_or_ge year guess with h' | h'
    · omega
    · have := daysBeforeYear_le h'
      omega
  · rename_i h
    have hg : guess ≤ year := by
      rcases Nat.lt_or_ge year guess with h' | h'
      · have := daysBeforeYear_le (a := year + 1) (b := guess) h'
        omega
      · exact h'
    split
    · rename_i h'
      rcases Nat.lt_or_ge guess year with hlt | hge
      · omega
      · have : guess = year := by omega
        subst this
        omega
    · rename_i h'
      rcases Nat.lt_or_ge guess year with hlt | hge
      · have := daysBeforeYear_le (a := guess + 1) (b := year) hlt
        omega
      · omega

namespace Date

/-- The date of a day number, for the years 0 to 9999. -/
def ofDayNumber? (n : Nat) : Option Date :=
  let year := yearOfDay n
  let leap := isLeap year
  let rest := n - daysBeforeYear year
  if n < 3652425 then
    (Month.all.find? fun m => rest < m.daysBefore leap + m.length leap).bind fun m =>
      ofFields? year m (rest - m.daysBefore leap + 1)
  else
    none

/-- The months before one have all ended when it begins. -/
theorem all_eq_append (leap : Bool) (m : Month) :
    ∃ before after, Month.all = before ++ m :: after ∧
      ∀ j ∈ before, j.daysBefore leap + j.length leap ≤ m.daysBefore leap :=
  ⟨Month.all.takeWhile fun j => j != m, (Month.all.dropWhile fun j => j != m).tail, by cases m <;> decide,
    by cases leap <;> cases m <;> decide⟩

/-- The month of a day of the year is the first one that ends after it. -/
theorem find?_month {leap : Bool} {m : Month} {k : Nat} (h : k < m.length leap) :
    (Month.all.find? fun j => decide (m.daysBefore leap + k < j.daysBefore leap + j.length leap)) = some m := by
  obtain ⟨before, after, he, hb⟩ := all_eq_append leap m
  refine List.find?_eq_some_iff_append.2 ⟨by simpa using h, before, after, he, ?_⟩
  intro j hj
  have := hb j hj
  simp
  omega

theorem ofDayNumber?_dayNumber (d : Date) : ofDayNumber? d.dayNumber = some d := by
  have hl := d.day_le
  have hp := d.day_pos
  have hy : yearOfDay d.dayNumber = d.year :=
    yearOfDay_eq (by unfold dayNumber; omega) d.dayNumber_lt_year
  have hr : d.dayNumber - daysBeforeYear d.year = d.month.daysBefore (isLeap d.year) + (d.day - 1) := by
    unfold dayNumber
    omega
  unfold ofDayNumber?
  simp only [hy, hr]
  rw [if_pos d.dayNumber_lt, find?_month (by omega)]
  refine ofFields?_eq_some_iff.2 ⟨rfl, rfl, ?_⟩
  omega

/-- Different dates have different day numbers. -/
theorem dayNumber_inj {a b : Date} (h : a.dayNumber = b.dayNumber) : a = b := by
  have := ofDayNumber?_dayNumber a
  rw [h, ofDayNumber?_dayNumber] at this
  exact (Option.some.inj this).symm

/-- The months of a year fill it. -/
theorem exists_month (leap : Bool) (rest : Nat) (h : rest < if leap then 366 else 365) :
    ∃ m : Month, m.daysBefore leap ≤ rest ∧ rest < m.daysBefore leap + m.length leap := by
  have hm : ∀ m : Month, m ∈ Month.all := fun m => by cases m <;> decide
  have hd : ∀ n, n < (if leap then 366 else 365) →
      Month.all.any (fun m => m.daysBefore leap ≤ n && n < m.daysBefore leap + m.length leap) := by
    cases leap <;> decide +kernel
  obtain ⟨m, -, h⟩ := List.any_eq_true.1 (hd rest h)
  simp only [Bool.and_eq_true, decide_eq_true_eq] at h
  exact ⟨m, h⟩

/-- The years 0 to 9999 leave no day number out. -/
theorem exists_dayNumber_eq {n : Nat} (h : n < 3652425) : ∃ d : Date, d.dayNumber = n := by
  have key : ∀ y, n < daysBeforeYear y →
      ∃ year, year < y ∧ daysBeforeYear year ≤ n ∧ n < daysBeforeYear (year + 1) := by
    intro y
    induction y with
    | zero => exact fun h => absurd h (by simp [daysBeforeYear])
    | succ y ih =>
      intro hy
      rcases Nat.lt_or_ge n (daysBeforeYear y) with h' | h'
      · obtain ⟨year, hlt, hb⟩ := ih h'
        exact ⟨year, by omega, hb⟩
      · exact ⟨y, by omega, h', hy⟩
  obtain ⟨year, hlt, hle, hu⟩ := key 10000 (by simpa [daysBeforeYear] using h)
  rw [daysBeforeYear_succ] at hu
  obtain ⟨m, hm, hm'⟩ := exists_month (isLeap year) (n - daysBeforeYear year) (by omega)
  refine ⟨⟨year, m, n - daysBeforeYear year - m.daysBefore (isLeap year) + 1, by omega, by omega, by omega⟩, ?_⟩
  unfold dayNumber
  simp only
  omega

theorem ofDayNumber?_eq_some_iff {n : Nat} {d : Date} : ofDayNumber? n = some d ↔ d.dayNumber = n := by
  constructor
  · intro h
    rcases Nat.lt_or_ge n 3652425 with hn | hn
    · obtain ⟨e, rfl⟩ := exists_dayNumber_eq hn
      rw [ofDayNumber?_dayNumber] at h
      cases h
      rfl
    · have : ofDayNumber? n = none := if_neg (by omega)
      rw [this] at h
      cases h
  · rintro rfl
    exact ofDayNumber?_dayNumber d

end Date

/-! ## Times of day -/

namespace TimeOfDay

/-- The time so many seconds after midnight. -/
def ofSeconds (n : Nat) (h : n < 86400) : TimeOfDay :=
  ⟨n / 3600, n / 60 % 60, n % 60, by omega, by omega, by omega⟩

theorem seconds_ofSeconds {n : Nat} (h : n < 86400) : (ofSeconds n h).seconds = n := by
  simp only [seconds, ofSeconds]
  omega

theorem ofSeconds_seconds (t : TimeOfDay) : ofSeconds t.seconds t.seconds_lt = t := by
  obtain ⟨hour, minute, second, hh, hm, hs⟩ := t
  simp only [ofSeconds, seconds, mk.injEq]
  omega

end TimeOfDay

/-! ## Instants -/

namespace Instant

/-- The number of the day of an instant in universal time; before year 0 it is negative. -/
def dayNumber (t : Instant) : Int :=
  t.nanos / 86400000000000 + epochDay

/-- The date of an instant of the years 0 to 9999 in universal time. -/
def date? (t : Instant) : Option Date :=
  if 0 ≤ t.dayNumber then Date.ofDayNumber? t.dayNumber.toNat else none

/-- The time of day of an instant in universal time, without its fraction of a second. -/
def timeOfDay (t : Instant) : TimeOfDay :=
  TimeOfDay.ofSeconds (t.nanos / 1000000000 % 86400).toNat (by omega)

theorem dayNumber_ofCivil (d : Date) (t : TimeOfDay) (f : Fin 1000000000) :
    (ofCivil d t .utc f).dayNumber = d.dayNumber := by
  have := t.seconds_lt
  have := f.isLt
  simp only [dayNumber, ofCivil, Zone.hoursAhead, epochDay]
  omega

theorem date?_ofCivil (d : Date) (t : TimeOfDay) (f : Fin 1000000000) : (ofCivil d t .utc f).date? = some d := by
  have h := dayNumber_ofCivil d t f
  rw [date?, if_pos (by omega), h, Int.toNat_natCast]
  exact d.ofDayNumber?_dayNumber

theorem timeOfDay_ofCivil (d : Date) (t : TimeOfDay) (f : Fin 1000000000) : (ofCivil d t .utc f).timeOfDay = t := by
  have h : ((ofCivil d t .utc f).nanos / 1000000000 % 86400).toNat = t.seconds := by
    have := t.seconds_lt
    have := f.isLt
    simp only [ofCivil, Zone.hoursAhead, epochDay]
    omega
  rw [← TimeOfDay.ofSeconds_seconds t]
  simp only [timeOfDay, h, TimeOfDay.ofSeconds_seconds]

/-- The date and the time of day of an instant in whole seconds name that instant. -/
theorem ofCivil_date? {t : Instant} {d : Date} (h : t.date? = some d) (hs : t.nanos % 1000000000 = 0) :
    ofCivil d t.timeOfDay .utc (fraction 0) = t := by
  have hd : t.dayNumber = d.dayNumber := by
    unfold date? at h
    split at h
    · have := Date.ofDayNumber?_eq_some_iff.1 h
      omega
    · cases h
  have ht : t.timeOfDay.seconds = (t.nanos / 1000000000 % 86400).toNat := TimeOfDay.seconds_ofSeconds _
  apply Instant.ext
  have h0 : ((fraction 0).val : Int) = 0 := rfl
  simp only [ofCivil, ht, Zone.hoursAhead, h0]
  unfold dayNumber at hd
  unfold epochDay at *
  omega

end Instant

end RetryPolicy
