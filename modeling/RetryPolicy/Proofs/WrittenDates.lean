import RetryPolicy.Proofs.CanonicalDates

/-!
# Which texts are dates, and which instants they name

A text is a date in the format of mail and HTTP exactly when it can be split into the parts of one, and they are those of a
date and a time of day that exist; then it names their instant in universal time, and it can be split in one way only
(`imf_dates_read_exactly`). The same holds of the format of `asctime` (`asctime_dates_read_exactly`), although its weekday and
its month look alike.

The shape of a format asks for word characters where the names of a weekday and of a month stand. These names are of word
characters in any case of their letters, and every other word is refused by what it says, so the parts of a date that is read
write that date and that time as the format has it (`ImfText.writes_iff`, `AsctimeText.writes_iff`). What does not hang on a
format's own parts is said of all formats at once (`read_parts_iff`, `read_eq_ok_iff_of_writes`, `parts_unique`).
-/

namespace RetryPolicy

open Text Header

/-! ## Names in any case -/

theorem isWord_of_isAlpha (c : Char) (h : c.isAlpha = true) : isWord c = true := by
  rw [isWord, Char.isAlphanum, h]
  rfl

/-- A name of word characters has no others in another case. -/
theorem all_isWord_of_sameName {a b : List Char} (h : sameName a b = true) (ha : a.all isWord = true) :
    b.all isWord = true := by
  rw [← all_eq_of_sameName isWord_of_isAlpha h]
  exact ha

/-- A name that has characters has them in another case. -/
theorem ne_nil_of_sameName {a b : List Char} (h : sameName a b = true) (ha : a ≠ []) : b ≠ [] := by
  rintro rfl
  exact ha (List.eq_nil_of_length_eq_zero (length_eq_of_sameName h))

theorem Weekday.length_name_ne (w : Weekday) : w.name.toList.length ≠ 3 := by
  cases w <;> decide

/-- The short name of a weekday has three word characters in any case. -/
theorem Weekday.word_of_abbreviation {w : Weekday} {name : List Char}
    (h : sameName w.abbreviation.toList name = true) : name.length = 3 ∧ name.all isWord = true :=
  ⟨(length_eq_of_sameName h).symm.trans w.length_abbreviation, all_isWord_of_sameName h w.all_isWord_abbreviation⟩

/-- The name of a month has three word characters in any case. -/
theorem Month.word_of_abbreviation {m : Month} {name : List Char}
    (h : sameName m.abbreviation.toList name = true) : name.length = 3 ∧ name.all isWord = true :=
  ⟨(length_eq_of_sameName h).symm.trans m.length_abbreviation, all_isWord_of_sameName h m.all_isWord_abbreviation⟩

/-- Three letters that name a weekday are its short name: no weekday has so short a name in full. -/
theorem Weekday.sameName_of_length {w : Weekday} {name : List Char} (hl : name.length = 3) (h : ofName? name = some w) :
    sameName w.abbreviation.toList name = true := by
  rcases ofName?_eq_some_iff.1 h with hs | hn
  · exact hs
  · exact absurd ((length_eq_of_sameName hn).trans hl) w.length_name_ne

namespace Header

/-- A stamp in Greenwich is accepted for the instant, in universal time, of the one date and time that it says. -/
theorem Stamp.instant_eq_ok_iff_of_greenwich {s : Stamp} (hz : s.zone = ['G', 'M', 'T']) {i : Instant} :
    s.instant = .ok i ↔ ∃ d time, s.Says d time .gmt ∧ i = Instant.ofCivil d time .utc (Instant.fraction 0) := by
  constructor
  · intro h
    obtain ⟨d, time, zone, hs, rfl⟩ := instant_eq_ok_iff.1 h
    have hzone : some Zone.gmt = some zone := by
      rw [← hs.zone, hz]
      exact Zone.gmt.ofName?_abbreviation.symm
    obtain rfl := Option.some.inj hzone
    exact ⟨d, time, hs, Instant.ofCivil_gmt d time _⟩
  · rintro ⟨d, time, hs, rfl⟩
    exact instant_of_says hs

/-! ## What every date format has in common -/

section Parts

variable {Parts : Type} {scan : List Char → Option Parts} {text : Parts → List Char} {WellFormed : Parts → Prop}

/-- A text is read when it can be split into parts of the right shape, as what these are read as. -/
theorem read_parts_iff (hscan : ∀ {cs parts}, scan cs = some parts ↔ WellFormed parts ∧ text parts = cs)
    {read : Parts → Except Fault Instant} {cs : List Char} {i : Instant} :
    (scan cs).map read = some (.ok i) ↔ ∃ parts, (WellFormed parts ∧ text parts = cs) ∧ read parts = .ok i := by
  simp only [Option.map_eq_some_iff, hscan]

/-- Parts of the right shape that are put together to a text are read as what they are read as alone. -/
theorem read_text (hscan : ∀ {cs parts}, scan cs = some parts ↔ WellFormed parts ∧ text parts = cs)
    {read : Parts → Except Fault Instant} {parts : Parts} (hp : WellFormed parts) :
    (scan (text parts)).map read = some (read parts) := by
  rw [hscan.2 ⟨hp, rfl⟩, Option.map_some]

/-- A scan that finds all parts of the right shape finds one way to split a text, so there is no other. -/
theorem parts_unique (hscan : ∀ {cs parts}, scan cs = some parts ↔ WellFormed parts ∧ text parts = cs) {parts others : Parts}
    (hp : WellFormed parts) (ho : WellFormed others) (htext : text parts = text others) : parts = others := by
  have h := hscan.2 ⟨hp, htext⟩
  rw [hscan.2 ⟨ho, rfl⟩] at h
  exact (Option.some.inj h).symm

/-- A format without zones reads a text when it can be split into parts that write a date and a time of day, and as their instant
in universal time. -/
theorem read_eq_ok_iff_of_writes (hscan : ∀ {cs parts}, scan cs = some parts ↔ WellFormed parts ∧ text parts = cs)
    {stamp : Parts → Stamp} {Writes : Parts → Date → TimeOfDay → Prop} (hzone : ∀ parts, (stamp parts).zone = ['G', 'M', 'T'])
    (hwrites : ∀ {parts d time}, Writes parts d time ↔ WellFormed parts ∧ (stamp parts).Says d time .gmt)
    {cs : List Char} {i : Instant} :
    ((scan cs).map fun parts => (stamp parts).instant) = some (.ok i) ↔
      ∃ parts d time, Writes parts d time ∧ text parts = cs ∧ i = Instant.ofCivil d time .utc (Instant.fraction 0) := by
  rw [read_parts_iff hscan]
  constructor
  · rintro ⟨parts, ⟨hw, htext⟩, hi⟩
    obtain ⟨d, time, hs, rfl⟩ := (Stamp.instant_eq_ok_iff_of_greenwich (hzone parts)).1 hi
    exact ⟨parts, d, time, hwrites.2 ⟨hw, hs⟩, htext, rfl⟩
  · rintro ⟨parts, d, time, h, htext, rfl⟩
    obtain ⟨hw, hs⟩ := hwrites.1 h
    exact ⟨parts, ⟨hw, htext⟩, (Stamp.instant_eq_ok_iff_of_greenwich (hzone parts)).2 ⟨d, time, hs, rfl⟩⟩

end Parts

/-! ## The time of day -/

/-- The parts write a time of day: a number of one or two digits for the hour, two digits for the minute and two for the
second, which may be missing when it is zero. -/
structure ClockText.Writes (t : ClockText) (time : TimeOfDay) : Prop where
  hour : (t.hour.length = 1 ∨ t.hour.length = 2) ∧ t.hour.all Char.isDigit = true ∧ value t.hour = time.hour
  minute : t.minute.length = 2 ∧ t.minute.all Char.isDigit = true ∧ value t.minute = time.minute
  second : ∀ s ∈ t.second, s.length = 2 ∧ s.all Char.isDigit = true ∧ value s = time.second
  noSecond : t.second = none → time.second = 0

/-- Parts write a time of day when they have the shape of one and their numbers are those of the time. -/
theorem ClockText.writes_iff {t : ClockText} {time : TimeOfDay} :
    t.Writes time ↔
      t.WellFormed ∧ value t.hour = time.hour ∧ value t.minute = time.minute ∧ t.secondValue = time.second := by
  constructor
  · rintro ⟨⟨lh, ph, hh⟩, ⟨lm, pm, hm⟩, hs, hnone⟩
    refine ⟨⟨lh, ph, lm, pm, ?_⟩, hh, hm, ?_⟩
    · intro s hmem
      exact ⟨(hs s hmem).1, (hs s hmem).2.1⟩
    · unfold secondValue
      cases hv : t.second with
      | none => exact (hnone hv).symm
      | some s => exact (hs s hv).2.2
  · rintro ⟨⟨lh, ph, lm, pm, hs⟩, hh, hm, hsec⟩
    unfold secondValue at hsec
    refine ⟨⟨lh, ph, hh⟩, ⟨lm, pm, hm⟩, ?_, ?_⟩
    · intro s hmem
      rw [Option.mem_def] at hmem
      rw [hmem] at hsec
      exact ⟨(hs s hmem).1, (hs s hmem).2, hsec⟩
    · intro hnone
      rw [hnone] at hsec
      exact hsec.symm

/-! ## The date of mail and HTTP -/

namespace ImfText

/-- The parts write a date and a time of day. The day has one or two digits, the month its name of three letters in any case and
the year four digits, and one gap stands behind each of them and behind the time of day. A weekday in front is that of the date,
with its name of three letters in any case and one gap behind the comma. -/
structure Writes (t : ImfText) (d : Date) (time : TimeOfDay) : Prop where
  weekday : ∀ w ∈ t.weekday,
    sameName d.weekday.abbreviation.toList w.name = true ∧ w.gap.length = 1 ∧ w.gap.all isGap = true
  day : (t.day.length = 1 ∨ t.day.length = 2) ∧ t.day.all Char.isDigit = true ∧ value t.day = d.day
  gap1 : isGap t.gap1 = true
  month : sameName d.month.abbreviation.toList t.month = true
  gap2 : isGap t.gap2 = true
  year : t.year.length = 4 ∧ t.year.all Char.isDigit = true ∧ value t.year = d.year
  gap3 : isGap t.gap3 = true
  clock : t.clock.Writes time
  gap4 : isGap t.gap4 = true

/-- Parts write what their stamp says, in universal time, if they have the shape that is looked for. -/
theorem writes_iff {t : ImfText} {d : Date} {time : TimeOfDay} :
    t.Writes d time ↔ t.WellFormed ∧ t.stamp.Says d time .gmt := by
  constructor
  · intro h
    obtain ⟨lm, pm⟩ := Month.word_of_abbreviation h.month
    obtain ⟨hc, hh, hmin, hs⟩ := ClockText.writes_iff.1 h.clock
    refine ⟨⟨?_, h.day.1, h.day.2.1, h.gap1, lm, pm, h.gap2, h.year.1, h.year.2.1, h.gap3, hc, h.gap4⟩,
      ⟨Month.ofName?_eq_some_iff.2 h.month, h.year.2.2, h.day.2.2, ?_, hh, hmin, hs, Zone.gmt.ofName?_abbreviation⟩⟩
    · intro w hw
      obtain ⟨hname, hgap⟩ := h.weekday w hw
      obtain ⟨ln, pn⟩ := Weekday.word_of_abbreviation hname
      exact ⟨ln, pn, hgap⟩
    · intro name hname
      obtain ⟨w, hw, rfl⟩ := Option.map_eq_some_iff.1 hname
      exact Weekday.ofName?_eq_some_iff.2 (.inl (h.weekday w hw).1)
  · rintro ⟨⟨hweekday, ld, pd, g1, -, -, g2, ly, py, g3, hc, g4⟩, h⟩
    refine ⟨?_, ⟨ld, pd, h.day⟩, g1, Month.ofName?_eq_some_iff.1 h.month, g2, ⟨ly, py, h.year⟩, g3,
      ClockText.writes_iff.2 ⟨hc, h.hour, h.minute, h.second⟩, g4⟩
    intro w hw
    obtain ⟨ln, -, hgap⟩ := hweekday w hw
    have hname := h.weekday w.name (Option.mem_map_of_mem WeekdayText.name hw)
    exact ⟨Weekday.sameName_of_length ln hname, hgap⟩

end ImfText

/-- The texts that are dates in the format of mail and HTTP. A text is read exactly when it can be split into parts that write a
date of the calendar and a time of day, with a weekday, if there is one, that is the day's; what is read is the instant of that
date and time in universal time. No text can be split in two ways, not even into parts that have any three word characters in
the places of the two names. -/
theorem imf_dates_read_exactly :
    (∀ (text : String) (i : Instant),
      imfFixdate text.toList = some (.ok i) ↔
        ∃ (parts : ImfText) (d : Date) (time : TimeOfDay),
          parts.Writes d time ∧ parts.text = text.toList ∧ i = Instant.ofCivil d time .utc (Instant.fraction 0)) ∧
    ∀ parts others : ImfText, parts.WellFormed → others.WellFormed → parts.text = others.text → parts = others := by
  constructor
  · intro text i
    exact read_eq_ok_iff_of_writes ImfText.scan_eq_some_iff (fun _ => rfl) ImfText.writes_iff
  · intro parts others hp ho htext
    exact parts_unique ImfText.scan_eq_some_iff hp ho htext

/-- The names in other letters, a tab for a gap, a day and an hour of one digit, and no second. However the text is split, its
first word is the weekday. -/
theorem imf_date_in_few_characters_read :
    imfFixdate "tHU,\t2 jan 2003 1:23 GMT".toList = some (.ok ⟨1041470580 * 1000000000, by decide, by decide⟩) ∧
      ∀ others : ImfText, others.WellFormed → others.text = "tHU,\t2 jan 2003 1:23 GMT".toList →
        others.weekday = some ⟨"tHU".toList, "\t".toList⟩ := by
  let parts : ImfText :=
    ⟨some ⟨['t', 'H', 'U'], ['\t']⟩, ['2'], ' ', ['j', 'a', 'n'], ' ', ['2', '0', '0', '3'], ' ', ⟨['1'], ['2', '3'], none⟩,
      ' '⟩
  let d : Date := ⟨2003, .january, 2, by decide, by decide, by decide⟩
  let time : TimeOfDay := ⟨1, 23, 0, by decide, by decide, by decide⟩
  have h : parts.Writes d time := {
    weekday := by
      rintro _ ⟨⟩
      exact ⟨by decide, rfl, rfl⟩
    day := ⟨.inl rfl, rfl, rfl⟩
    gap1 := rfl
    month := by decide
    gap2 := rfl
    year := ⟨rfl, rfl, rfl⟩
    gap3 := rfl
    clock := ⟨⟨.inl rfl, rfl, rfl⟩, ⟨rfl, rfl, rfl⟩, nofun, fun _ => rfl⟩
    gap4 := rfl }
  have htext : parts.text = "tHU,\t2 jan 2003 1:23 GMT".toList := by decide
  refine ⟨(imf_dates_read_exactly.1 _ _).2 ⟨parts, d, time, h, htext, by decide⟩, ?_⟩
  intro others ho hothers
  have hw := (ImfText.writes_iff.1 h).1
  rw [imf_dates_read_exactly.2 others parts ho hw (hothers.trans htext.symm)]
  decide

/-! ## The date of `asctime` -/

namespace AsctimeText

/-- The parts write a date and a time of day. The month has its name of three letters in any case, the day one or two digits and
the year four; one gap stands behind the day, and one or more behind the month and before the year. A weekday in front is that
of the date, with its name of three letters in any case and one gap or more behind it. -/
structure Writes (t : AsctimeText) (d : Date) (time : TimeOfDay) : Prop where
  weekday : ∀ w ∈ t.weekday,
    sameName d.weekday.abbreviation.toList w.name = true ∧ w.gap ≠ [] ∧ w.gap.all isGap = true
  month : sameName d.month.abbreviation.toList t.month = true
  gap1 : t.gap1 ≠ [] ∧ t.gap1.all isGap = true
  day : (t.day.length = 1 ∨ t.day.length = 2) ∧ t.day.all Char.isDigit = true ∧ value t.day = d.day
  gap2 : isGap t.gap2 = true
  clock : t.clock.Writes time
  gap3 : t.gap3 ≠ [] ∧ t.gap3.all isGap = true
  year : t.year.length = 4 ∧ t.year.all Char.isDigit = true ∧ value t.year = d.year

/-- Parts write what their stamp says, in universal time, if they have the shape that is looked for. -/
theorem writes_iff {t : AsctimeText} {d : Date} {time : TimeOfDay} :
    t.Writes d time ↔ t.WellFormed ∧ t.stamp.Says d time .gmt := by
  constructor
  · intro h
    obtain ⟨lm, pm⟩ := Month.word_of_abbreviation h.month
    obtain ⟨hc, hh, hmin, hs⟩ := ClockText.writes_iff.1 h.clock
    refine ⟨⟨?_, lm, pm, h.gap1.1, h.gap1.2, h.day.1, h.day.2.1, h.gap2, hc, h.gap3.1, h.gap3.2, h.year.1, h.year.2.1⟩,
      ⟨Month.ofName?_eq_some_iff.2 h.month, h.year.2.2, h.day.2.2, ?_, hh, hmin, hs, Zone.gmt.ofName?_abbreviation⟩⟩
    · intro w hw
      obtain ⟨hname, hgap⟩ := h.weekday w hw
      obtain ⟨ln, pn⟩ := Weekday.word_of_abbreviation hname
      exact ⟨ln, pn, hgap⟩
    · intro name hname
      obtain ⟨w, hw, rfl⟩ := Option.map_eq_some_iff.1 hname
      exact Weekday.ofName?_eq_some_iff.2 (.inl (h.weekday w hw).1)
  · rintro ⟨⟨hweekday, -, -, hg1, pg1, ld, pd, g2, hc, hg3, pg3, ly, py⟩, h⟩
    refine ⟨?_, Month.ofName?_eq_some_iff.1 h.month, ⟨hg1, pg1⟩, ⟨ld, pd, h.day⟩, g2,
      ClockText.writes_iff.2 ⟨hc, h.hour, h.minute, h.second⟩, ⟨hg3, pg3⟩, ⟨ly, py, h.year⟩⟩
    intro w hw
    obtain ⟨ln, -, hgap⟩ := hweekday w hw
    have hname := h.weekday w.name (Option.mem_map_of_mem WeekdayText.name hw)
    exact ⟨Weekday.sameName_of_length ln hname, hgap⟩

end AsctimeText

/-- The texts that are dates in the format of `asctime`. A text is read exactly when it can be split into parts that write a
date of the calendar and a time of day, with a weekday, if there is one, that is the day's; what is read is the instant of that
date and time in universal time. No text can be split in two ways, not even into parts that have any three word characters in
the places of the two names. -/
theorem asctime_dates_read_exactly :
    (∀ (text : String) (i : Instant),
      asctime text.toList = some (.ok i) ↔
        ∃ (parts : AsctimeText) (d : Date) (time : TimeOfDay),
          parts.Writes d time ∧ parts.text = text.toList ∧ i = Instant.ofCivil d time .utc (Instant.fraction 0)) ∧
    ∀ parts others : AsctimeText, parts.WellFormed → others.WellFormed → parts.text = others.text → parts = others := by
  constructor
  · intro text i
    exact read_eq_ok_iff_of_writes AsctimeText.scan_eq_some_iff (fun _ => rfl) AsctimeText.writes_iff
  · intro parts others hp ho htext
    exact parts_unique AsctimeText.scan_eq_some_iff hp ho htext

/-- The names in other letters, a tab and more spaces for a gap, a day and an hour of one digit, and no second. However the
text is split, its first word is the weekday. -/
theorem asctime_date_in_wide_gaps_read :
    asctime "tHU\t  jan   2 1:23  2003".toList = some (.ok ⟨1041470580 * 1000000000, by decide, by decide⟩) ∧
      ∀ others : AsctimeText, others.WellFormed → others.text = "tHU\t  jan   2 1:23  2003".toList →
        others.weekday = some ⟨"tHU".toList, "\t  ".toList⟩ := by
  let parts : AsctimeText :=
    ⟨some ⟨['t', 'H', 'U'], ['\t', ' ', ' ']⟩, ['j', 'a', 'n'], [' ', ' ', ' '], ['2'], ' ', ⟨['1'], ['2', '3'], none⟩,
      [' ', ' '], ['2', '0', '0', '3']⟩
  let d : Date := ⟨2003, .january, 2, by decide, by decide, by decide⟩
  let time : TimeOfDay := ⟨1, 23, 0, by decide, by decide, by decide⟩
  have h : parts.Writes d time := {
    weekday := by
      rintro _ ⟨⟩
      exact ⟨by decide, List.cons_ne_nil _ _, rfl⟩
    month := by decide
    gap1 := ⟨List.cons_ne_nil _ _, rfl⟩
    day := ⟨.inl rfl, rfl, rfl⟩
    gap2 := rfl
    clock := ⟨⟨.inl rfl, rfl, rfl⟩, ⟨rfl, rfl, rfl⟩, nofun, fun _ => rfl⟩
    gap3 := ⟨List.cons_ne_nil _ _, rfl⟩
    year := ⟨rfl, rfl, rfl⟩ }
  have htext : parts.text = "tHU\t  jan   2 1:23  2003".toList := by decide
  refine ⟨(asctime_dates_read_exactly.1 _ _).2 ⟨parts, d, time, h, htext, by decide⟩, ?_⟩
  intro others ho hothers
  have hw := (AsctimeText.writes_iff.1 h).1
  rw [asctime_dates_read_exactly.2 others parts ho hw (hothers.trans htext.symm)]
  decide

end Header

end RetryPolicy
