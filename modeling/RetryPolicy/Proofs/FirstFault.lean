import RetryPolicy.Proofs.Shapes

/-!
# What is said of a date that cannot be read

A format is silent about a text that it can read and about one of another form. Of a text in its form that it cannot read it
leaves one warning, with its own name and the text. A date may have several faults at once; the warning has the one whose check
comes first, and the checks come in the same order for every date (`rejected_dates_report_first_fault`): the name of the month,
the day of the calendar, the name of the weekday, whether it is the day's, the time of day, the zone. An ISO-8601 instant names
neither month nor weekday nor zone, and its time of day is checked before its calendar day.

Which faults a date has is said of its fields without an order (`Stamp.HasFault`); `Fault.turn` is the place of a check, and each
check is the only one of its turn. So a check that is passed leaves no fault of its turn, and one that fails has found the first.
-/

namespace RetryPolicy

open Text Header

/-- The place of the check that finds the fault, in the order in which the checks of one text are made. -/
def Fault.turn : Fault → Nat
  | tooLong _ | unknownMonth _ => 0
  | noSuchDate .. => 1
  | unknownWeekday _ => 2
  | wrongWeekday .. => 3
  | noSuchTime .. => 4
  | unknownZone _ | isoOutOfRange => 5

/-- The word names the weekday: it is its name in full or of three letters, in any case. -/
def Weekday.IsNamed (day : Weekday) (word : List Char) : Prop :=
  sameName day.abbreviation.toList word = true ∨ sameName day.name.toList word = true

theorem Weekday.IsNamed.unique {day other : Weekday} {word : List Char} (hd : day.IsNamed word) (ho : other.IsNamed word) :
    day = other := by
  rw [Weekday.IsNamed, ← Weekday.ofName?_eq_some_iff] at hd ho
  exact Option.some.inj (hd.symm.trans ho)

theorem Month.eq_of_sameName {m k : Month} {name : List Char} (hm : sameName m.abbreviation.toList name = true)
    (hk : sameName k.abbreviation.toList name = true) : m = k := by
  rw [← Month.ofName?_eq_some_iff] at hm hk
  exact Option.some.inj (hm.symm.trans hk)

namespace Header

/-! ## The first of several faults -/

/-- No fault of an earlier turn is there. -/
def Passed (HasFault : Fault → Prop) (turn : Nat) : Prop :=
  ∀ fault, HasFault fault → turn ≤ fault.turn

/-- The fault is there, and no other has an earlier turn. -/
def IsFirst (HasFault : Fault → Prop) (fault : Fault) : Prop :=
  HasFault fault ∧ Passed HasFault fault.turn

theorem passed_zero (HasFault : Fault → Prop) : Passed HasFault 0 :=
  fun _ _ => Nat.zero_le _

/-- A check that finds nothing is passed. -/
theorem Passed.succ {HasFault : Fault → Prop} {turn : Nat} (h : Passed HasFault turn)
    (hcheck : ∀ fault, HasFault fault → fault.turn ≠ turn) : Passed HasFault (turn + 1) := by
  intro fault hf
  exact Nat.lt_of_le_of_ne (h fault hf) (hcheck fault hf).symm

/-- The check of a turn finds the fault of its turn, if there is one. -/
structure Checks {α : Type} (found : Except Fault α) (turn : Nat) (HasFault : Fault → Prop) : Prop where
  finds : ∀ fault, found = .error fault → HasFault fault ∧ fault.turn = turn
  leaves : ∀ a, found = .ok a → ∀ fault, HasFault fault → fault.turn ≠ turn

/-- One step of a chain of checks: it has found the first fault, or it is passed and the rest of the chain fails. -/
theorem Passed.step {α β : Type} {found : Except Fault α} {rest : α → Except Fault β} {HasFault : Fault → Prop}
    {turn : Nat} {fault : Fault} (h : Passed HasFault turn) (hcheck : Checks found turn HasFault)
    (herror : (found >>= rest) = .error fault) :
    IsFirst HasFault fault ∨ ∃ a, found = .ok a ∧ Passed HasFault (turn + 1) ∧ rest a = .error fault := by
  rcases bind_eq_error_iff.1 herror with hfound | ⟨a, ha, hrest⟩
  · obtain ⟨hf, rfl⟩ := hcheck.finds fault hfound
    exact .inl ⟨hf, h⟩
  · exact .inr ⟨a, ha, h.succ (hcheck.leaves a ha), hrest⟩

/-- A look-up that fails says that there is nothing to find. -/
theorem lookup_eq_error_iff {α : Type} {P : α → Prop} {value : Option α} {missing fault : Fault}
    (hvalue : ∀ a, value = some a ↔ P a) : orFault value missing = .error fault ↔ (¬∃ a, P a) ∧ fault = missing := by
  simp only [orFault_eq_error_iff, Option.eq_none_iff_forall_ne_some, ne_eq, hvalue, not_exists,
    eq_comm (a := missing)]

/-- A look-up checks that there is something to find. -/
theorem checks_lookup {α : Type} {P : α → Prop} {value : Option α} {missing : Fault} {HasFault : Fault → Prop}
    (hvalue : ∀ a, value = some a ↔ P a) (hmissing : (¬∃ a, P a) → HasFault missing)
    (hthere : (∃ a, P a) → ∀ fault, HasFault fault → fault.turn ≠ missing.turn) :
    Checks (orFault value missing) missing.turn HasFault where
  finds fault h := by
    obtain ⟨hnone, rfl⟩ := (lookup_eq_error_iff hvalue).1 h
    exact ⟨hmissing hnone, rfl⟩
  leaves a h := hthere ⟨a, (hvalue a).1 (orFault_eq_ok_iff.1 h)⟩

/-- Checks that find a fault where there is one, and the first of them. -/
structure FindsFirst {α : Type} (found : Except Fault α) (HasFault : Fault → Prop) : Prop where
  /-- What passes has no fault. -/
  sound : ∀ a, found = .ok a → ∀ fault, ¬HasFault fault
  /-- What is found is the first fault. -/
  first : ∀ fault, found = .error fault → IsFirst HasFault fault
  /-- Each turn has one fault at most. -/
  unique : ∀ fault other, HasFault fault → HasFault other → fault.turn = other.turn → fault = other

namespace FindsFirst

variable {α : Type} {found : Except Fault α} {HasFault : Fault → Prop} {fault : Fault}

/-- The fault that is found is the first, and the only one that is. -/
theorem eq_error_iff (h : FindsFirst found HasFault) : found = .error fault ↔ IsFirst HasFault fault := by
  constructor
  · exact h.first fault
  · rintro ⟨hf, hpassed⟩
    cases hfound : found with
    | ok a => exact absurd hf (h.sound a hfound fault)
    | error other =>
      obtain ⟨ho, hother⟩ := h.first other hfound
      have hturn : other.turn = fault.turn := Nat.le_antisymm (hother fault hf) (hpassed other ho)
      rw [h.unique other fault ho hf hturn]

/-- Something is read unless there is a fault. -/
theorem exists_fault_iff (h : FindsFirst found HasFault) : (∃ fault, HasFault fault) ↔ ∀ a, found ≠ .ok a := by
  constructor
  · rintro ⟨fault, hf⟩ a ha
    exact h.sound a ha fault hf
  · intro hnone
    cases hfound : found with
    | ok a => exact absurd hfound (hnone a)
    | error fault => exact ⟨fault, (h.first fault hfound).1⟩

end FindsFirst

/-! ## The faults of a stamp -/

namespace Stamp

/-- The date that the numbers and the name of the month denote. -/
def Dates (s : Stamp) (d : Date) : Prop :=
  d.year = s.year ∧ sameName d.month.abbreviation.toList s.month = true ∧ d.day = s.day

/-- What is wrong with a stamp, in no order. -/
inductive HasFault (s : Stamp) : Fault → Prop
  /-- No month has the name. -/
  | month : (¬∃ m : Month, sameName m.abbreviation.toList s.month = true) →
      HasFault s (.unknownMonth (String.ofList s.month))
  /-- The month that is named has no such day in that year. -/
  | date {m : Month} : sameName m.abbreviation.toList s.month = true → (¬∃ d, s.Dates d) →
      HasFault s (.noSuchDate s.year m.number s.day)
  /-- No weekday has the name. -/
  | weekday {word : List Char} : s.weekday = some word → (¬∃ day : Weekday, day.IsNamed word) →
      HasFault s (.unknownWeekday (String.ofList word))
  /-- The weekday that is named is not that of the date. -/
  | disagreement {word : List Char} {day : Weekday} {d : Date} : s.weekday = some word → day.IsNamed word → s.Dates d →
      day ≠ d.weekday → HasFault s (.wrongWeekday day d.weekday)
  /-- No day has such a time. -/
  | time : (¬∃ t : TimeOfDay, t.hour = s.hour ∧ t.minute = s.minute ∧ t.second = s.second) →
      HasFault s (.noSuchTime s.hour s.minute s.second)
  /-- No zone has the name. -/
  | zone : (¬∃ zone : Zone, sameName zone.abbreviation.toList s.zone = true) →
      HasFault s (.unknownZone (String.ofList s.zone))

theorem dates_iff {s : Stamp} {m : Month} (hm : sameName m.abbreviation.toList s.month = true) {d : Date} :
    s.Dates d ↔ Date.ofFields? s.year m s.day = some d := by
  rw [Date.ofFields?_eq_some_iff, Dates]
  constructor
  · rintro ⟨hy, hd, hday⟩
    exact ⟨hy, Month.eq_of_sameName hd hm, hday⟩
  · rintro ⟨hy, rfl, hday⟩
    exact ⟨hy, hm, hday⟩

theorem Dates.unique {s : Stamp} {d e : Date} (hd : s.Dates d) (he : s.Dates e) : d = e := by
  have hmonth := hd.2.1
  rw [dates_iff hmonth] at hd he
  exact Option.some.inj (hd.symm.trans he)

/-- Each check finds one fault at most. -/
theorem HasFault.eq_of_turn_eq {s : Stamp} {fault other : Fault} (hf : s.HasFault fault) (ho : s.HasFault other)
    (hturn : fault.turn = other.turn) : fault = other := by
  cases hf with
  | month => cases ho with
    | month => rfl
    | _ => cases hturn
  | date hm => cases ho with
    | date hk => rw [Month.eq_of_sameName hm hk]
    | _ => cases hturn
  | weekday hw => cases ho with
    | weekday hv =>
      rw [hw] at hv
      rw [Option.some.inj hv]
    | _ => cases hturn
  | disagreement hw hday hd => cases ho with
    | disagreement hv hother he =>
      rw [hw] at hv
      rw [Option.some.inj hv] at hday
      rw [hday.unique hother, hd.unique he]
    | _ => cases hturn
  | time => cases ho with
    | time => rfl
    | _ => cases hturn
  | zone => cases ho with
    | zone => rfl
    | _ => cases hturn

/-- A stamp that is accepted has no fault. -/
theorem not_hasFault_of_ok {s : Stamp} {i : Instant} (h : s.instant = .ok i) (fault : Fault) : ¬s.HasFault fault := by
  obtain ⟨d, t, zone, hs, -⟩ := instant_eq_ok_iff.1 h
  have hmonth := Month.ofName?_eq_some_iff.1 hs.month
  have hdate : s.Dates d := ⟨hs.year.symm, hmonth, hs.day.symm⟩
  intro hf
  cases hf with
  | month hnone => exact hnone ⟨d.month, hmonth⟩
  | date _ hnone => exact hnone ⟨d, hdate⟩
  | weekday hw hnone => exact hnone ⟨d.weekday, Weekday.ofName?_eq_some_iff.1 (hs.weekday _ hw)⟩
  | disagreement hw hday hd hne =>
    apply hne
    rw [hd.unique hdate]
    exact hday.unique (Weekday.ofName?_eq_some_iff.1 (hs.weekday _ hw))
  | time hnone => exact hnone ⟨t, hs.hour.symm, hs.minute.symm, hs.second.symm⟩
  | zone hnone => exact hnone ⟨zone, Zone.ofName?_eq_some_iff.1 hs.zone⟩

/-! ### The checks, one by one -/

theorem checks_namedMonth (s : Stamp) : Checks s.namedMonth 0 s.HasFault :=
  checks_lookup (fun _ => Month.ofName?_eq_some_iff) .month fun hmonth _ hf => by
    cases hf with
    | month hnone => exact absurd hmonth hnone
    | _ => nofun

theorem checks_date {s : Stamp} {m : Month} (hm : sameName m.abbreviation.toList s.month = true) :
    Checks (s.date m) 1 s.HasFault :=
  checks_lookup (fun _ => (dates_iff hm).symm) (.date hm) fun hdate _ hf => by
    cases hf with
    | date _ hnone => exact absurd hdate hnone
    | _ => nofun

theorem namedWeekday_eq_ok_some_iff {s : Stamp} {day : Weekday} :
    s.namedWeekday = .ok (some day) ↔ ∃ word, s.weekday = some word ∧ day.IsNamed word := by
  unfold namedWeekday
  cases s.weekday with
  | none => simp
  | some word =>
    simp only [Weekday.IsNamed, ← Weekday.ofName?_eq_some_iff, Option.some.injEq, exists_eq_left']
    cases Weekday.ofName? word with
    | none => simp [orFault, Except.map]
    | some day => simp [orFault, Except.map]

theorem namedWeekday_eq_error_iff {s : Stamp} {fault : Fault} :
    s.namedWeekday = .error fault ↔
      ∃ word, s.weekday = some word ∧ (¬∃ day : Weekday, day.IsNamed word) ∧ fault = .unknownWeekday (String.ofList word) := by
  unfold namedWeekday
  cases s.weekday with
  | none => simp
  | some word =>
    simp only [Option.some.injEq, exists_eq_left', Weekday.IsNamed, ← Weekday.ofName?_eq_some_iff]
    cases Weekday.ofName? word with
    | none => simp [orFault, Except.map, eq_comm]
    | some day => simp [orFault, Except.map]

theorem checks_namedWeekday (s : Stamp) : Checks s.namedWeekday 2 s.HasFault where
  finds fault h := by
    obtain ⟨word, hw, hnone, rfl⟩ := namedWeekday_eq_error_iff.1 h
    exact ⟨.weekday hw hnone, rfl⟩
  leaves named h fault hf := by
    cases hf with
    | weekday hw hnone =>
      rw [namedWeekday_eq_error_iff.2 ⟨_, hw, hnone, rfl⟩] at h
      cases h
    | _ => nofun

theorem confirm_eq_error_iff {named : Option Weekday} {actual : Weekday} {fault : Fault} :
    confirm named actual = .error fault ↔ ∃ day, named = some day ∧ day ≠ actual ∧ fault = .wrongWeekday day actual := by
  cases named with
  | none => simp [confirm]
  | some day =>
    by_cases h : day = actual
    · simp [confirm, h]
    · simp only [confirm, h, if_false, Except.error.injEq, Option.some.injEq, exists_eq_left', ne_eq, not_false_eq_true,
        true_and]
      exact eq_comm

theorem checks_confirm {s : Stamp} {named : Option Weekday} {d : Date} (hn : s.namedWeekday = .ok named) (hd : s.Dates d) :
    Checks (confirm named d.weekday) 3 s.HasFault where
  finds fault h := by
    obtain ⟨day, rfl, hne, rfl⟩ := confirm_eq_error_iff.1 h
    obtain ⟨word, hw, hday⟩ := namedWeekday_eq_ok_some_iff.1 hn
    exact ⟨.disagreement hw hday hd hne, rfl⟩
  leaves _ h fault hf := by
    cases hf with
    | disagreement hw hday he hne =>
      rw [namedWeekday_eq_ok_some_iff.2 ⟨_, hw, hday⟩] at hn
      cases hn
      rw [he.unique hd] at hne
      rw [confirm_eq_error_iff.2 ⟨_, rfl, hne, rfl⟩] at h
      cases h
    | _ => nofun

theorem checks_time (s : Stamp) : Checks s.time 4 s.HasFault :=
  checks_lookup (fun _ => TimeOfDay.ofFields?_eq_some_iff) .time fun htime _ hf => by
    cases hf with
    | time hnone => exact absurd htime hnone
    | _ => nofun

theorem checks_namedZone (s : Stamp) : Checks s.namedZone 5 s.HasFault :=
  checks_lookup (fun _ => Zone.ofName?_eq_some_iff) .zone fun hzone _ hf => by
    cases hf with
    | zone hnone => exact absurd hzone hnone
    | _ => nofun

/-- A stamp that is refused is refused for its first fault: each check has it, or is passed and leaves it to the next. -/
theorem isFirst_of_error {s : Stamp} {fault : Fault} (h : s.instant = .error fault) : IsFirst s.HasFault fault := by
  have passed := passed_zero s.HasFault
  obtain hfirst | ⟨month, hm, passed, h⟩ := passed.step s.checks_namedMonth h
  · exact hfirst
  have hmonth := Month.ofName?_eq_some_iff.1 (orFault_eq_ok_iff.1 hm)
  obtain hfirst | ⟨date, hd, passed, h⟩ := passed.step (checks_date hmonth) h
  · exact hfirst
  have hdate : s.Dates date := (dates_iff hmonth).2 (orFault_eq_ok_iff.1 hd)
  obtain hfirst | ⟨named, hn, passed, h⟩ := passed.step s.checks_namedWeekday h
  · exact hfirst
  obtain hfirst | ⟨_, _, passed, h⟩ := passed.step (checks_confirm hn hdate) h
  · exact hfirst
  obtain hfirst | ⟨time, _, passed, h⟩ := passed.step s.checks_time h
  · exact hfirst
  obtain hfirst | ⟨zone, _, passed, h⟩ := passed.step s.checks_namedZone h
  · exact hfirst
  · cases h

theorem findsFirst_instant (s : Stamp) : FindsFirst s.instant s.HasFault where
  sound _ := not_hasFault_of_ok
  first _ := isFirst_of_error
  unique _ _ := HasFault.eq_of_turn_eq

end Stamp

/-! ## The faults of an ISO instant -/

namespace IsoText

/-- The date that the numbers denote. -/
def Dates (t : IsoText) (d : Date) : Prop :=
  d.year = value t.year ∧ d.month.number = value t.month ∧ d.day = value t.day

/-- What is wrong with an instant, in no order. -/
inductive HasFault (t : IsoText) : Fault → Prop
  /-- No day has such a time. -/
  | time : (¬∃ time : TimeOfDay, time.hour = value t.hour ∧ time.minute = value t.minute ∧ time.second = value t.second) →
      HasFault t (.noSuchTime (value t.hour) (value t.minute) (value t.second))
  /-- No date has such numbers. -/
  | date : (¬∃ d, t.Dates d) → HasFault t .isoOutOfRange

theorem dates_iff {t : IsoText} {d : Date} :
    ((Month.ofNumber? (value t.month)).bind fun month => Date.ofFields? (value t.year) month (value t.day)) = some d ↔
      t.Dates d := by
  simp only [Option.bind_eq_some_iff, Month.ofNumber?_eq_some_iff, Date.ofFields?_eq_some_iff, Dates]
  constructor
  · rintro ⟨month, hm, hy, rfl, hd⟩
    exact ⟨hy, hm, hd⟩
  · rintro ⟨hy, hm, hd⟩
    exact ⟨d.month, hm, hy, rfl, hd⟩

/-- Each check finds one fault at most. -/
theorem HasFault.eq_of_turn_eq {t : IsoText} {fault other : Fault} (hf : t.HasFault fault) (ho : t.HasFault other)
    (hturn : fault.turn = other.turn) : fault = other := by
  cases hf with
  | time => cases ho with
    | time => rfl
    | date => cases hturn
  | date => cases ho with
    | time => cases hturn
    | date => rfl

/-- An instant that is accepted has no fault. -/
theorem not_hasFault_of_ok {t : IsoText} {i : Instant} (h : t.instant = .ok i) (fault : Fault) : ¬t.HasFault fault := by
  obtain ⟨d, time, ht, -⟩ := instant_eq_ok_iff.1 h
  intro hf
  cases hf with
  | time hnone => exact hnone ⟨time, ht.hour.symm, ht.minute.symm, ht.second.symm⟩
  | date hnone => exact hnone ⟨d, ht.year.symm, Month.ofNumber?_eq_some_iff.1 ht.month, ht.day.symm⟩

theorem checks_time (t : IsoText) : Checks t.time 4 t.HasFault :=
  checks_lookup (fun _ => TimeOfDay.ofFields?_eq_some_iff) .time fun htime _ hf => by
    cases hf with
    | time hnone => exact absurd htime hnone
    | date => nofun

theorem checks_date (t : IsoText) : Checks t.date 5 t.HasFault :=
  checks_lookup (fun _ => dates_iff) .date fun hdate _ hf => by
    cases hf with
    | time => nofun
    | date hnone => exact absurd hdate hnone

/-- There is nothing to check before the time of day. -/
theorem passed_four (t : IsoText) : Passed t.HasFault 4 := by
  intro fault hf
  cases hf with
  | time => exact Nat.le_refl _
  | date => exact Nat.le_succ _

/-- An instant that is refused is refused for its first fault. -/
theorem isFirst_of_error {t : IsoText} {fault : Fault} (h : t.instant = .error fault) : IsFirst t.HasFault fault := by
  obtain hfirst | ⟨time, _, passed, h⟩ := t.passed_four.step t.checks_time h
  · exact hfirst
  obtain hfirst | ⟨date, _, passed, h⟩ := passed.step t.checks_date h
  · exact hfirst
  · cases h

theorem findsFirst_instant (t : IsoText) : FindsFirst t.instant t.HasFault where
  sound _ := not_hasFault_of_ok
  first _ := isFirst_of_error
  unique _ _ := HasFault.eq_of_turn_eq

end IsoText

end Header

/-! ## What is reported -/

namespace Format

theorem value_wait_eq_none_iff {f : Format} {now : ClockTime} {text : String} :
    (f.wait now text).value = none ↔ ∀ h, f.read text.toList ≠ some (.ok h) := by
  rw [wait, Option.map_eq_none_iff, Option.eq_none_iff_forall_ne_some]
  simp only [ne_eq, value_heading_eq_some_iff]

theorem events_wait (f : Format) (now : ClockTime) (text : String) :
    (f.wait now text).events = ((f.fault? text.toList).map (Event.unreadable f text)).toList :=
  f.events_heading text

/-- A text of the format that cannot be read has a fault. -/
theorem exists_fault?_iff {f : Format} {now : ClockTime} {text : String} :
    (∃ fault, f.fault? text.toList = some fault) ↔ (f.wait now text).value = none ∧ f.Form text.toList := by
  simp only [value_wait_eq_none_iff, fault?_eq_some_iff, ← hasShape_iff_form, hasShape]
  rcases f.read text.toList with _ | fault | h
  · simp
  · simp
  · simp

/-- The format refuses the text when it has a fault, and the one event is about the first. -/
structure ReportsFirst (f : Format) (text : String) (HasFault : Fault → Prop) : Prop where
  refused_iff : ∀ now, (f.wait now text).value = none ↔ ∃ fault, HasFault fault
  reported_iff : ∀ now fault, (f.wait now text).events = [.unreadable f text fault] ↔ IsFirst HasFault fault

/-- A format that takes a date from what checks find says what they find first. -/
theorem reportsFirst_of_read {f : Format} {text : String} {found : Except Fault Instant} {HasFault : Fault → Prop}
    (hread : f.read text.toList = some (found.map .date)) (hfound : FindsFirst found HasFault) :
    f.ReportsFirst text HasFault where
  refused_iff now := by
    rw [value_wait_eq_none_iff, hfound.exists_fault_iff, hread]
    cases found with
    | ok i => simp [Except.map]
    | error fault => simp [Except.map]
  reported_iff now fault := by
    rw [← hfound.eq_error_iff, events_wait, fault?, hread]
    cases found with
    | ok i => simp [Except.map]
    | error other => simp [Except.map]

/-- A format that takes a text apart into parts, in one way at most, and checks these. -/
theorem reportsFirst_of_parts {Parts : Type} {scan : List Char → Option Parts} {text : Parts → List Char}
    {WellFormed : Parts → Prop} {f : Format} {found : Parts → Except Fault Instant} {HasFault : Fault → Prop}
    (hscan : ∀ {cs parts}, scan cs = some parts ↔ WellFormed parts ∧ text parts = cs)
    (hread : ∀ cs, f.read cs = ((scan cs).map found).map (·.map .date)) {parts : Parts} (hp : WellFormed parts)
    (hfound : FindsFirst (found parts) HasFault) : f.ReportsFirst (String.ofList (text parts)) HasFault := by
  apply reportsFirst_of_read _ hfound
  rw [String.toList_ofList, hread, hscan.2 ⟨hp, rfl⟩]
  rfl

/-- A format leaves no event when it reads the text or when the text has another form, and otherwise one warning, with its own
name, the text and a fault in words. Of the dates with names and of ISO instants it is the first fault, whichever others the date
has. -/
theorem rejected_dates_report_first_fault :
    (∀ (f : Format) (now : ClockTime) (text : String),
      ((f.wait now text).value ≠ none ∨ ¬f.Form text.toList → (f.wait now text).events = []) ∧
      ((f.wait now text).value = none → f.Form text.toList → ∃ fault,
        (f.wait now text).events = [.unreadable f text fault] ∧
          (Event.unreadable f text fault).level = .warn ∧
          (Event.unreadable f text fault).message = "failed to parse Retry-After header " ++ quoted text ∧
          (Event.unreadable f text fault).fields = [("format", f.name), ("error", fault.message)])) ∧
    (∀ t : ImfText, t.WellFormed → imfFixdate.ReportsFirst (String.ofList t.text) t.stamp.HasFault) ∧
    (∀ t : AsctimeText, t.WellFormed → asctime.ReportsFirst (String.ofList t.text) t.stamp.HasFault) ∧
    (∀ t : Rfc850Text, t.WellFormed → rfc850.ReportsFirst (String.ofList t.text) t.stamp.HasFault) ∧
    (∀ t : IsoText, t.WellFormed → iso8601.ReportsFirst (String.ofList t.text) t.HasFault) := by
  refine ⟨?anyText, ?imfFixdate, ?asctime, ?rfc850, ?iso8601⟩
  case anyText =>
    intro f now text
    constructor
    · intro h
      have hnone : f.fault? text.toList = none := by
        rw [Option.eq_none_iff_forall_ne_some]
        intro fault hfault
        obtain ⟨hvalue, hform⟩ := exists_fault?_iff.1 ⟨fault, hfault⟩
        exact h.elim (· hvalue) (· hform)
      rw [events_wait, hnone]
      rfl
    · intro hvalue hform
      obtain ⟨fault, hfault⟩ := exists_fault?_iff.2 ⟨hvalue, hform⟩
      refine ⟨fault, ?_, rfl, rfl, rfl⟩
      rw [events_wait, hfault]
      rfl
  case imfFixdate =>
    intro t ht
    exact reportsFirst_of_parts ImfText.scan_eq_some_iff (fun _ => rfl) ht t.stamp.findsFirst_instant
  case asctime =>
    intro t ht
    exact reportsFirst_of_parts AsctimeText.scan_eq_some_iff (fun _ => rfl) ht t.stamp.findsFirst_instant
  case rfc850 =>
    intro t ht
    exact reportsFirst_of_parts Rfc850Text.scan_eq_some_iff (fun _ => rfl) ht t.stamp.findsFirst_instant
  case iso8601 =>
    intro t ht
    exact reportsFirst_of_parts IsoText.scan_eq_some_iff (fun _ => rfl) ht t.findsFirst_instant

/-- A date with a weekday, a day, a time and a zone that do not exist is reported for its day, and an instant with a month, a
day and a time that do not exist for its time. -/
theorem thirtieth_of_february_before_other_faults :
    (rfc850.wait ⟨0, 0, by decide, by decide, by decide⟩ "Xday, 30-Feb-03 25:61 XYZ").events =
      [.unreadable .rfc850 "Xday, 30-Feb-03 25:61 XYZ" (.noSuchDate 2003 2 30)] ∧
    (iso8601.wait ⟨0, 0, by decide, by decide, by decide⟩ "2003-13-45T25:61:00Z").events =
      [.unreadable .iso8601 "2003-13-45T25:61:00Z" (.noSuchTime 25 61 0)] := by
  obtain ⟨-, -, -, hrfc850, hiso⟩ := rejected_dates_report_first_fault
  constructor
  · let t : Rfc850Text :=
      ⟨some ⟨"Xday".toList, [' ']⟩, "30".toList, "Feb".toList, "03".toList, ' ', ⟨"25".toList, "61".toList, none⟩, ' ',
        "XYZ".toList⟩
    have hscan : Rfc850Text.scan t.text = some t := by decide
    have hw : t.WellFormed := (Rfc850Text.scan_eq_some_iff.1 hscan).1
    refine ((hrfc850 t hw).reported_iff _ (.noSuchDate 2003 2 30)).2 ⟨?isFault, ?isFirst⟩
    case isFault =>
      have hmonth : sameName Month.february.abbreviation.toList t.stamp.month = true := by decide
      have hnone : Date.ofFields? t.stamp.year .february t.stamp.day = none := by decide
      refine .date hmonth ?_
      rintro ⟨d, hd⟩
      rw [Stamp.dates_iff hmonth, hnone] at hd
      cases hd
    case isFirst =>
      exact (passed_zero t.stamp.HasFault).succ (t.stamp.checks_namedMonth.leaves .february rfl)
  · let t : IsoText := ⟨"2003".toList, "13".toList, "45".toList, "25".toList, "61".toList, "00".toList, none⟩
    have hscan : IsoText.scan t.text = some t := by decide
    have hw : t.WellFormed := (IsoText.scan_eq_some_iff.1 hscan).1
    refine ((hiso t hw).reported_iff _ (.noSuchTime 25 61 0)).2 ⟨.time ?_, t.passed_four⟩
    rintro ⟨time, hhour, -, -⟩
    exact absurd (hhour ▸ time.hour_lt) (by decide)

end Format

end RetryPolicy
