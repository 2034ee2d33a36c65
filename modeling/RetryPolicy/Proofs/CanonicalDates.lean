import RetryPolicy.Header.Canonical
import RetryPolicy.Proofs.FormatLists

/-!
# Dates that are written can be read

An instant in whole seconds of the years 0 to 9999 can be written in the three date formats with a year in full, and one of
the years 2000 to 2099 in that of RFC 850 as well. Each format reads the instant back from its own text
(`canonical_dates_read_back`), so a reader of every format finds the same wait in all of them.

A canonical text consists of the parts that `ofCivil` gives, these have the form of the format (`wellFormed_ofCivil`), and
what they say is the date and the time they were made from (`says_ofCivil`).
-/

namespace RetryPolicy

open Text Header

/-! ## Names and numbers -/

theorem Month.length_abbreviation (m : Month) : m.abbreviation.toList.length = 3 := by
  cases m <;> decide

theorem Month.all_isWord_abbreviation (m : Month) : m.abbreviation.toList.all isWord = true := by
  cases m <;> decide

theorem Weekday.length_abbreviation (w : Weekday) : w.abbreviation.toList.length = 3 := by
  cases w <;> decide

theorem Weekday.all_isWord_abbreviation (w : Weekday) : w.abbreviation.toList.all isWord = true := by
  cases w <;> decide

theorem Weekday.name_ne_nil (w : Weekday) : w.name.toList ≠ [] := by
  cases w <;> decide

theorem Weekday.all_isWord_name (w : Weekday) : w.name.toList.all isWord = true := by
  cases w <;> decide

theorem Zone.abbreviation_ne_nil (zone : Zone) : zone.abbreviation.toList ≠ [] := by
  cases zone <;> decide

theorem Zone.all_isWord_abbreviation (zone : Zone) : zone.abbreviation.toList.all isWord = true := by
  cases zone <;> decide

theorem Date.day_lt (d : Date) : d.day < 100 := by
  have := d.day_le
  have := d.month.length_le (isLeap d.year)
  omega

theorem Date.length_day (d : Date) : (padded 2 d.day).length = 2 :=
  length_padded (by decide) d.day_lt

theorem Date.length_year (d : Date) : (padded 4 d.year).length = 4 :=
  length_padded (by decide) (Nat.lt_succ_of_le d.year_le)

theorem Month.length_number (m : Month) : (padded 2 m.number).length = 2 :=
  length_padded (by decide) (Nat.lt_of_le_of_lt m.number_le (by decide))

theorem TimeOfDay.length_hour (t : TimeOfDay) : (padded 2 t.hour).length = 2 :=
  length_padded (by decide) (Nat.lt_trans t.hour_lt (by decide))

theorem TimeOfDay.length_minute (t : TimeOfDay) : (padded 2 t.minute).length = 2 :=
  length_padded (by decide) (Nat.lt_trans t.minute_lt (by decide))

theorem TimeOfDay.length_second (t : TimeOfDay) : (padded 2 t.second).length = 2 :=
  length_padded (by decide) (Nat.lt_trans t.second_lt (by decide))

namespace Header

theorem ClockText.wellFormed_ofTime (t : TimeOfDay) : (ofTime t).WellFormed := by
  refine ⟨.inr t.length_hour, all_isDigit_padded 2 _, t.length_minute, all_isDigit_padded 2 _, ?_⟩
  rintro _ ⟨⟩
  exact ⟨t.length_second, all_isDigit_padded 2 _⟩

/-- What says a date and a time in Greenwich names one instant. -/
theorem Stamp.instant_of_says {s : Stamp} {d : Date} {t : TimeOfDay} (h : s.Says d t .gmt) :
    s.instant = .ok (Instant.ofCivil d t .utc (Instant.fraction 0)) := by
  rw [← Instant.ofCivil_gmt]
  exact instant_eq_ok_iff.2 ⟨d, t, .gmt, h, rfl⟩

/-! ## The date of mail and HTTP -/

namespace ImfText

theorem wellFormed_ofCivil (d : Date) (t : TimeOfDay) : (ofCivil d t).WellFormed := by
  refine ⟨?_, .inr d.length_day, all_isDigit_padded 2 _, rfl, d.month.length_abbreviation,
    d.month.all_isWord_abbreviation, rfl, d.length_year, all_isDigit_padded 4 _, rfl, ClockText.wellFormed_ofTime t, rfl⟩
  rintro _ ⟨⟩
  exact ⟨d.weekday.length_abbreviation, d.weekday.all_isWord_abbreviation, rfl, rfl⟩

theorem says_ofCivil (d : Date) (t : TimeOfDay) : (ofCivil d t).stamp.Says d t .gmt where
  month := d.month.ofName?_abbreviation
  year := value_padded 4 _
  day := value_padded 2 _
  weekday := by
    rintro _ ⟨⟩
    exact d.weekday.ofName?_abbreviation
  hour := value_padded 2 _
  minute := value_padded 2 _
  second := value_padded 2 _
  zone := Zone.gmt.ofName?_abbreviation

end ImfText

/-- The date that is written is the date that is read. -/
theorem imfFixdate_ofCivil (d : Date) (t : TimeOfDay) :
    imfFixdate (ImfText.ofCivil d t).text = some (.ok (Instant.ofCivil d t .utc (Instant.fraction 0))) := by
  have hs := ImfText.scan_eq_some_iff.2 ⟨ImfText.wellFormed_ofCivil d t, rfl⟩
  rw [imfFixdate, hs, Option.map_some, Stamp.instant_of_says (ImfText.says_ofCivil d t)]

/-! ## The date of RFC 850 -/

namespace Rfc850Text

theorem wellFormed_ofCivil (d : Date) (t : TimeOfDay) : (ofCivil d t).WellFormed := by
  refine ⟨?_, .inr d.length_day, all_isDigit_padded 2 _, d.month.length_abbreviation,
    d.month.all_isWord_abbreviation, length_padded (by decide) (Nat.mod_lt _ (by decide)), all_isDigit_padded 2 _,
    rfl, ClockText.wellFormed_ofTime t, rfl, Zone.abbreviation_ne_nil .gmt, Zone.all_isWord_abbreviation .gmt⟩
  rintro _ ⟨⟩
  exact ⟨d.weekday.name_ne_nil, d.weekday.all_isWord_name, rfl, rfl⟩

/-- Two digits tell the year in its century alone. -/
theorem says_ofCivil {d : Date} (hl : 2000 ≤ d.year) (hu : d.year ≤ 2099) (t : TimeOfDay) :
    (ofCivil d t).stamp.Says d t .gmt where
  month := d.month.ofName?_abbreviation
  year := by
    show 2000 + value (padded 2 (d.year % 100)) = d.year
    rw [value_padded]
    omega
  day := value_padded 2 _
  weekday := by
    rintro _ ⟨⟩
    exact d.weekday.ofName?_name
  hour := value_padded 2 _
  minute := value_padded 2 _
  second := value_padded 2 _
  zone := Zone.gmt.ofName?_abbreviation

end Rfc850Text

/-- The date that is written is the date that is read, in its century. -/
theorem rfc850_ofCivil {d : Date} (hl : 2000 ≤ d.year) (hu : d.year ≤ 2099) (t : TimeOfDay) :
    rfc850 (Rfc850Text.ofCivil d t).text = some (.ok (Instant.ofCivil d t .utc (Instant.fraction 0))) := by
  have hs := Rfc850Text.scan_eq_some_iff.2 ⟨Rfc850Text.wellFormed_ofCivil d t, rfl⟩
  rw [rfc850, hs, Option.map_some, Stamp.instant_of_says (Rfc850Text.says_ofCivil hl hu t)]

/-! ## The date of `asctime` -/

namespace AsctimeText

theorem wellFormed_ofCivil (d : Date) (t : TimeOfDay) : (ofCivil d t).WellFormed := by
  have hday : (digits d.day).length = 1 ∨ (digits d.day).length = 2 := by
    have hle : (digits d.day).length ≤ 2 := length_digits_le (by decide) d.day_lt
    have := length_digits_pos d.day
    omega
  have hgap : (ofCivil d t).gap1 ≠ [] ∧ (ofCivil d t).gap1.all isGap = true := by
    show (if d.day < 10 then [' ', ' '] else [' ']) ≠ [] ∧
      (if d.day < 10 then [' ', ' '] else [' ']).all isGap = true
    split
    · exact ⟨List.cons_ne_nil _ _, rfl⟩
    · exact ⟨List.cons_ne_nil _ _, rfl⟩
  refine ⟨?_, d.month.length_abbreviation, d.month.all_isWord_abbreviation, hgap.1, hgap.2, hday, all_isDigit_digits _,
    rfl, ClockText.wellFormed_ofTime t, List.cons_ne_nil _ _, rfl, d.length_year,
    all_isDigit_padded 4 _⟩
  rintro _ ⟨⟩
  exact ⟨d.weekday.length_abbreviation, d.weekday.all_isWord_abbreviation, List.cons_ne_nil _ _, rfl⟩

theorem says_ofCivil (d : Date) (t : TimeOfDay) : (ofCivil d t).stamp.Says d t .gmt where
  month := d.month.ofName?_abbreviation
  year := value_padded 4 _
  day := value_digits _
  weekday := by
    rintro _ ⟨⟩
    exact d.weekday.ofName?_abbreviation
  hour := value_padded 2 _
  minute := value_padded 2 _
  second := value_padded 2 _
  zone := Zone.gmt.ofName?_abbreviation

end AsctimeText

/-- The date that is written is the date that is read. -/
theorem asctime_ofCivil (d : Date) (t : TimeOfDay) :
    asctime (AsctimeText.ofCivil d t).text = some (.ok (Instant.ofCivil d t .utc (Instant.fraction 0))) := by
  have hs := AsctimeText.scan_eq_some_iff.2 ⟨AsctimeText.wellFormed_ofCivil d t, rfl⟩
  rw [asctime, hs, Option.map_some, Stamp.instant_of_says (AsctimeText.says_ofCivil d t)]

/-! ## The instant of ISO-8601 -/

namespace IsoText

theorem wellFormed_ofCivil (d : Date) (t : TimeOfDay) : (ofCivil d t).WellFormed := by
  exact ⟨d.length_year, all_isDigit_padded 4 _, d.month.length_number, all_isDigit_padded 2 _, d.length_day,
    all_isDigit_padded 2 _, t.length_hour, all_isDigit_padded 2 _, t.length_minute, all_isDigit_padded 2 _,
    t.length_second, all_isDigit_padded 2 _, nofun⟩

theorem says_ofCivil (d : Date) (t : TimeOfDay) : (ofCivil d t).Says d t where
  year := value_padded 4 _
  month := by
    show Month.ofNumber? (value (padded 2 d.month.number)) = some d.month
    rw [value_padded]
    exact d.month.ofNumber?_number
  day := value_padded 2 _
  hour := value_padded 2 _
  minute := value_padded 2 _
  second := value_padded 2 _

end IsoText

/-- The instant that is written is the instant that is read. -/
theorem iso8601_ofCivil (d : Date) (t : TimeOfDay) :
    iso8601 (IsoText.ofCivil d t).text = some (.ok (Instant.ofCivil d t .utc (Instant.fraction 0))) := by
  have hs := IsoText.scan_eq_some_iff.2 ⟨IsoText.wellFormed_ofCivil d t, rfl⟩
  have hi := IsoText.instant_eq_ok_iff.2 ⟨d, t, IsoText.says_ofCivil d t, rfl⟩
  rw [iso8601, hs, Option.map_some, hi]
  rfl

/-! ## All of them together -/

/-- Each of the texts is read in one of the formats, and all of them as the same instant. -/
theorem exists_read_of_mem_canonicalTexts {d : Date} {t : TimeOfDay} {cs : List Char} (h : cs ∈ canonicalTexts d t) :
    ∃ f : Format, f.read cs = some (.ok (.date (Instant.ofCivil d t .utc (Instant.fraction 0)))) := by
  rcases List.mem_append.1 h with h | h
  · simp only [List.mem_cons, List.not_mem_nil, or_false] at h
    rcases h with rfl | rfl | rfl
    · refine ⟨.imfFixdate, ?_⟩
      rw [Format.read, imfFixdate_ofCivil]
      rfl
    · refine ⟨.asctime, ?_⟩
      rw [Format.read, asctime_ofCivil]
      rfl
    · refine ⟨.iso8601, ?_⟩
      rw [Format.read, iso8601_ofCivil]
      rfl
  · split at h
    · rename_i hy
      obtain rfl := List.mem_singleton.1 h
      refine ⟨.rfc850, ?_⟩
      rw [Format.read, rfc850_ofCivil hy.1 hy.2]
      rfl
    · exact absurd h List.not_mem_nil

end Header

/-- What one of the formats of a reader reads in a text is what the reader finds in it: the text has no white space at its
edges, so that nothing of it is trimmed. -/
theorem HeaderReader.value_wait_of_read {reader : HeaderReader} {f : Format} (hf : f ∈ reader.formats) {cs : List Char}
    {h : Heading} (hr : f.read cs = some (.ok h)) :
    (reader.wait (some (String.ofList cs))).value = some (h.wait reader.now) := by
  have ht := (Format.bare_of_hasShape (Format.hasShape_of_read hr)).trim_eq
  apply value_wait_of_read_trim hf
  rw [String.toList_ofList, ht]
  exact hr

namespace Instant

/-- A whole second of the years 0 to 9999. -/
structure IsWritable (t : Instant) : Prop where
  le_nanos : -62167219200 * 1000000000 ≤ t.nanos
  nanos_lt : t.nanos < 253402300800 * 1000000000
  whole : t.nanos % 1000000000 = 0

theorem IsWritable.exists_date? {t : Instant} (ht : t.IsWritable) : ∃ d, t.date? = some d := by
  have hl := ht.le_nanos
  have hu := ht.nanos_lt
  have h0 : 0 ≤ t.dayNumber := by
    unfold dayNumber epochDay
    omega
  have h1 : t.dayNumber.toNat < 3652425 := by
    unfold dayNumber epochDay
    omega
  obtain ⟨d, hd⟩ := Date.exists_dayNumber_eq h1
  exact ⟨d, by rw [date?, if_pos h0, Date.ofDayNumber?_eq_some_iff, hd]⟩

/-- A whole second of the years 0 to 9999 is read back from each of the texts for it, that of RFC 850 in its century only. A
reader of every format therefore finds the same wait in all of them, whatever its clock shows. -/
theorem canonical_dates_read_back {t : Instant} (ht : t.IsWritable) :
    ∃ d, t.date? = some d ∧
      imfFixdate (ImfText.ofCivil d t.timeOfDay).text = some (.ok t) ∧
      asctime (AsctimeText.ofCivil d t.timeOfDay).text = some (.ok t) ∧
      iso8601 (IsoText.ofCivil d t.timeOfDay).text = some (.ok t) ∧
      (2000 ≤ d.year ∧ d.year ≤ 2099 → rfc850 (Rfc850Text.ofCivil d t.timeOfDay).text = some (.ok t)) ∧
      ∀ now, ∀ cs ∈ canonicalTexts d t.timeOfDay,
        ((HeaderReader.ofPreset .extended now).wait (some (String.ofList cs))).value = some (t.since now) := by
  obtain ⟨d, hd⟩ := ht.exists_date?
  have hc := ofCivil_date? hd ht.whole
  refine ⟨d, hd, ?_, ?_, ?_, ?_, ?_⟩
  · rw [imfFixdate_ofCivil, hc]
  · rw [asctime_ofCivil, hc]
  · rw [iso8601_ofCivil, hc]
  · rintro ⟨hl, hu⟩
    rw [rfc850_ofCivil hl hu, hc]
  · intro now cs hm
    obtain ⟨f, hr⟩ := exists_read_of_mem_canonicalTexts hm
    rw [hc] at hr
    exact HeaderReader.value_wait_of_read f.mem_all hr

/-- The last second of the leap day of 2000, which only the rule for every fourth century gives. -/
theorem last_second_of_leap_day_reads_back :
    let t : Instant := ⟨951868799 * 1000000000, by decide, by decide⟩
    t.IsWritable ∧ rfc850 "Tuesday, 29-Feb-00 23:59:59 GMT".toList = some (.ok t) ∧
      ∀ now, ∀ text ∈ ["Tue, 29 Feb 2000 23:59:59 GMT", "Tue Feb 29 23:59:59 2000", "2000-02-29T23:59:59Z",
        "Tuesday, 29-Feb-00 23:59:59 GMT"],
        ((HeaderReader.ofPreset .extended now).wait (some text)).value = some (t.since now) := by
  intro t
  have ht : t.IsWritable := ⟨by decide, by decide, by decide⟩
  have hdate : t.date? = some ⟨2000, .february, 29, by decide, by decide, by decide⟩ := by decide +kernel
  obtain ⟨d, hd, -, -, -, hrfc, hall⟩ := canonical_dates_read_back ht
  rw [hdate] at hd
  cases hd
  have htexts : (canonicalTexts ⟨2000, .february, 29, by decide, by decide, by decide⟩ t.timeOfDay).map String.ofList =
      ["Tue, 29 Feb 2000 23:59:59 GMT", "Tue Feb 29 23:59:59 2000", "2000-02-29T23:59:59Z",
        "Tuesday, 29-Feb-00 23:59:59 GMT"] := by
    decide +kernel
  have hr : (Rfc850Text.ofCivil ⟨2000, .february, 29, by decide, by decide, by decide⟩ t.timeOfDay).text =
      "Tuesday, 29-Feb-00 23:59:59 GMT".toList := by
    decide +kernel
  refine ⟨ht, ?_, ?_⟩
  · rw [← hr]
    exact hrfc ⟨by decide, by decide⟩
  · intro now text hm
    rw [← htexts] at hm
    obtain ⟨cs, hc, rfl⟩ := List.mem_map.1 hm
    exact hall now cs hc

end Instant

end RetryPolicy
