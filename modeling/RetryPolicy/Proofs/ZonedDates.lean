import Mathlib.Control.Monad.Basic
import RetryPolicy.Proofs.WrittenDates

/-!
# Dates in a zone

A text is a date in the format of RFC 850 exactly when it can be split into the parts of one, and they are those of a date and
a time of day that exist, in a zone that has a name. The date, its weekday and the time are what the clocks of the zone show,
and the instant lies as many hours before the same date and time in universal time as these clocks are ahead
(`rfc850_dates_read_exactly`). So a date changes its instant with its zone, and neither the date nor the weekday that it
names has to be that of the instant in universal time.
-/

namespace RetryPolicy

open Text Header

/-- A date and a time come earlier where clocks are ahead. -/
theorem Instant.nanos_ofCivil (d : Date) (time : TimeOfDay) (zone : Zone) (f : Fin 1000000000) :
    (ofCivil d time zone f).nanos = (ofCivil d time .utc f).nanos - zone.hoursAhead * 3600 * 1000000000 := by
  have hutc : Zone.utc.hoursAhead = 0 := rfl
  simp only [ofCivil, hutc]
  omega

/-- Both names of a weekday are words, in any case. -/
theorem Weekday.word_of_sameName {day : Weekday} {name : List Char}
    (h : sameName day.abbreviation.toList name = true ∨ sameName day.name.toList name = true) :
    name ≠ [] ∧ name.all isWord = true := by
  rcases h with h | h
  · have na := List.ne_nil_of_length_eq_add_one day.length_abbreviation
    exact ⟨ne_nil_of_sameName h na, all_isWord_of_sameName h day.all_isWord_abbreviation⟩
  · exact ⟨ne_nil_of_sameName h day.name_ne_nil, all_isWord_of_sameName h day.all_isWord_name⟩

/-- The name of no other zone ends in that of Greenwich. -/
theorem Zone.eq_of_sameName_append {zone : Zone} {v : List Char}
    (h : sameName zone.abbreviation.toList (v ++ ['G', 'M', 'T']) = true) : zone = .gmt ∧ v = [] := by
  have hend : ∀ other : Zone, (lower other.abbreviation.toList).drop (other.abbreviation.toList.length - 3) =
      ['g', 'm', 't'] → other = .gmt := by
    intro other
    cases other <;> decide
  have hlength : zone.abbreviation.toList.length = v.length + 3 := by
    rw [length_eq_of_sameName h, List.length_append]
    rfl
  have hlower : lower zone.abbreviation.toList = lower v ++ ['g', 'm', 't'] := by
    rw [(sameName_iff _ _).1 h, lower, List.map_append]
    rfl
  have hgmt : zone = .gmt := by
    apply hend
    have hv : (lower v).length = v.length + 3 - 3 := by simp [lower]
    rw [hlength, hlower, ← hv, List.drop_left]
  subst hgmt
  refine ⟨rfl, List.eq_nil_of_length_eq_zero ?_⟩
  have hthree : Zone.gmt.abbreviation.toList.length = 3 := rfl
  omega

namespace Header

namespace Rfc850Text

/-- The parts write a date of the years 2000 to 2099, a time of day and a zone. The day has one or two digits, the month its
name of three letters in any case, and the year its last two digits; one gap stands on each side of the time of day, and the zone
has its abbreviation in any case. A weekday in front is that of the date, with its name in full or of three letters, in any case,
and one gap behind the comma. -/
structure Writes (t : Rfc850Text) (d : Date) (time : TimeOfDay) (zone : Zone) : Prop where
  weekday : ∀ w ∈ t.weekday,
    (sameName d.weekday.abbreviation.toList w.name = true ∨ sameName d.weekday.name.toList w.name = true) ∧
      w.gap.length = 1 ∧ w.gap.all isGap = true
  day : (t.day.length = 1 ∨ t.day.length = 2) ∧ t.day.all Char.isDigit = true ∧ value t.day = d.day
  month : sameName d.month.abbreviation.toList t.month = true
  year : t.year.length = 2 ∧ t.year.all Char.isDigit = true ∧ 2000 + value t.year = d.year
  gap1 : isGap t.gap1 = true
  clock : t.clock.Writes time
  gap2 : isGap t.gap2 = true
  zone : sameName zone.abbreviation.toList t.zone = true

/-- Parts write what their stamp says, if they have the shape that is looked for. -/
theorem writes_iff {t : Rfc850Text} {d : Date} {time : TimeOfDay} {zone : Zone} :
    t.Writes d time zone ↔ t.WellFormed ∧ t.stamp.Says d time zone := by
  constructor
  · intro h
    obtain ⟨lm, pm⟩ := Month.word_of_abbreviation h.month
    obtain ⟨hc, hh, hmin, hs⟩ := ClockText.writes_iff.1 h.clock
    have nz := ne_nil_of_sameName h.zone zone.abbreviation_ne_nil
    have pz := all_isWord_of_sameName h.zone zone.all_isWord_abbreviation
    refine ⟨⟨?_, h.day.1, h.day.2.1, lm, pm, h.year.1, h.year.2.1, h.gap1, hc, h.gap2, nz, pz⟩,
      ⟨Month.ofName?_eq_some_iff.2 h.month, h.year.2.2, h.day.2.2, ?_, hh, hmin, hs, Zone.ofName?_eq_some_iff.2 h.zone⟩⟩
    · intro w hw
      obtain ⟨hname, hgap⟩ := h.weekday w hw
      obtain ⟨nn, pn⟩ := Weekday.word_of_sameName hname
      exact ⟨nn, pn, hgap⟩
    · intro name hname
      obtain ⟨w, hw, rfl⟩ := Option.map_eq_some_iff.1 hname
      exact Weekday.ofName?_eq_some_iff.2 (h.weekday w hw).1
  · rintro ⟨⟨hweekday, ld, pd, -, -, ly, py, g1, hc, g2, -, -⟩, h⟩
    refine ⟨?_, ⟨ld, pd, h.day⟩, Month.ofName?_eq_some_iff.1 h.month, ⟨ly, py, h.year⟩, g1,
      ClockText.writes_iff.2 ⟨hc, h.hour, h.minute, h.second⟩, g2, Zone.ofName?_eq_some_iff.1 h.zone⟩
    intro w hw
    obtain ⟨-, -, hgap⟩ := hweekday w hw
    have hname := h.weekday w.name (Option.mem_map_of_mem WeekdayText.name hw)
    exact ⟨Weekday.ofName?_eq_some_iff.1 hname, hgap⟩

/-! ### One date in two zones -/

/-- The date as it is written up to the gap before its zone. -/
def beforeZone (t : Rfc850Text) : List Char :=
  weekdayText t.weekday ++ (t.day ++ '-' :: (t.month ++ '-' :: (t.year ++ t.gap1 :: t.clock.text)))

theorem text_eq_append_zone (t : Rfc850Text) : t.text = t.beforeZone ++ t.gap2 :: t.zone := by
  simp [text, bodyText, beforeZone]

/-- The zone stands behind a gap, so a text that ends in Greenwich and names a zone names Greenwich. -/
theorem zone_of_text_eq {t : Rfc850Text} {zone : Zone} (hg : isGap t.gap2 = true)
    (hz : sameName zone.abbreviation.toList t.zone = true) {cs : List Char} (h : t.text = cs ++ ['G', 'M', 'T']) :
    zone = .gmt ∧ cs = t.beforeZone ++ [t.gap2] := by
  have noGap : t.gap2 ∉ ['G', 'M', 'T'] := by
    intro hmem
    have word := List.all_eq_true.1 Zone.gmt.all_isWord_abbreviation t.gap2 hmem
    rw [isGap_eq_false_of_isWord word] at hg
    cases hg
  rw [text_eq_append_zone] at h
  -- A zone of fewer letters would put its gap among those of Greenwich, one of more would have a longer name.
  rcases List.append_eq_append_iff.1 h with ⟨v, rfl, hv⟩ | ⟨v, -, hv⟩
  · cases v with
    | nil =>
      refine absurd ?_ noGap
      rw [← List.nil_append ['G', 'M', 'T'], ← hv]
      exact List.mem_cons_self
    | cons c v =>
      obtain ⟨rfl, hzone⟩ := List.cons.inj hv
      rw [hzone] at hz
      obtain ⟨rfl, rfl⟩ := Zone.eq_of_sameName_append hz
      exact ⟨rfl, rfl⟩
  · refine absurd ?_ noGap
    rw [hv]
    exact List.mem_append_right v List.mem_cons_self

/-- A date in another zone is written with the name of that zone and is otherwise the same. -/
theorem Writes.inZone {t : Rfc850Text} {d : Date} {time : TimeOfDay} {zone other : Zone} (h : t.Writes d time zone)
    {name : List Char} (hname : sameName other.abbreviation.toList name = true) :
    ({ t with zone := name } : Rfc850Text).Writes d time other :=
  { h with zone := hname }

end Rfc850Text

/-- A text is read when it can be split into parts that write a date and a time of day in a zone, and as their instant. -/
theorem rfc850_eq_ok_iff {cs : List Char} {i : Instant} :
    rfc850 cs = some (.ok i) ↔
      ∃ (parts : Rfc850Text) (d : Date) (time : TimeOfDay) (zone : Zone),
        parts.Writes d time zone ∧ parts.text = cs ∧ i = Instant.ofCivil d time zone (Instant.fraction 0) := by
  rw [rfc850, read_parts_iff Rfc850Text.scan_eq_some_iff]
  constructor
  · rintro ⟨parts, ⟨hw, htext⟩, hi⟩
    obtain ⟨d, time, zone, hs, hi⟩ := Stamp.instant_eq_ok_iff.1 hi
    exact ⟨parts, d, time, zone, Rfc850Text.writes_iff.2 ⟨hw, hs⟩, htext, hi⟩
  · rintro ⟨parts, d, time, zone, h, htext, hi⟩
    obtain ⟨hw, hs⟩ := Rfc850Text.writes_iff.1 h
    exact ⟨parts, ⟨hw, htext⟩, Stamp.instant_eq_ok_iff.2 ⟨d, time, zone, hs, hi⟩⟩

/-- The texts that are dates in the format of RFC 850. A text is read exactly when it can be split into parts that write a date
of the years 2000 to 2099, a time of day and a zone, with a weekday, if there is one, that is the day's; what is read is the
instant of that date and time in universal time, less the hours that the zone is ahead. No text can be split in two ways. A date
in Greenwich is read in every other zone as well, and its instant moves by the hours of that zone exactly, across midnight and
the ends of months and years if need be. -/
theorem rfc850_dates_read_exactly :
    (∀ (text : String) (i : Instant),
      rfc850 text.toList = some (.ok i) ↔
        ∃ (parts : Rfc850Text) (d : Date) (time : TimeOfDay) (zone : Zone),
          parts.Writes d time zone ∧ parts.text = text.toList ∧
            i.nanos = (Instant.ofCivil d time .utc (Instant.fraction 0)).nanos - zone.hoursAhead * 3600 * 1000000000) ∧
    (∀ parts others : Rfc850Text, parts.WellFormed → others.WellFormed → parts.text = others.text → parts = others) ∧
    ∀ (dateAndTime name : String) (zone : Zone) (i : Instant), sameName zone.abbreviation.toList name.toList = true →
      rfc850 (dateAndTime ++ "GMT").toList = some (.ok i) →
        ∃ j, rfc850 (dateAndTime ++ name).toList = some (.ok j) ∧ j.nanos = i.nanos - zone.hoursAhead * 3600 * 1000000000 := by
  refine ⟨?_, ?_, ?_⟩
  · intro text i
    rw [rfc850_eq_ok_iff]
    constructor
    · rintro ⟨parts, d, time, zone, h, htext, rfl⟩
      exact ⟨parts, d, time, zone, h, htext, Instant.nanos_ofCivil d time zone _⟩
    · rintro ⟨parts, d, time, zone, h, htext, hi⟩
      exact ⟨parts, d, time, zone, h, htext, Instant.ext (hi.trans (Instant.nanos_ofCivil d time zone _).symm)⟩
  · intro parts others hp ho htext
    exact parts_unique Rfc850Text.scan_eq_some_iff hp ho htext
  · intro dateAndTime name zone i hname hread
    obtain ⟨parts, d, time, named, h, htext, rfl⟩ := rfc850_eq_ok_iff.1 hread
    rw [String.toList_append] at htext
    obtain ⟨rfl, hfront⟩ := Rfc850Text.zone_of_text_eq h.gap2 h.zone htext
    have hmoved : ({ parts with zone := name.toList } : Rfc850Text).text = (dateAndTime ++ name).toList := by
      rw [String.toList_append, hfront, List.append_assoc, Rfc850Text.text_eq_append_zone]
      rfl
    refine ⟨Instant.ofCivil d time zone (Instant.fraction 0), ?_, ?_⟩
    · exact rfc850_eq_ok_iff.2 ⟨{ parts with zone := name.toList }, d, time, zone, h.inZone hname, hmoved, rfl⟩
    · rw [Instant.ofCivil_gmt, Instant.nanos_ofCivil]

/-- On the last evening of a century in Greenwich clocks five hours behind show the same date and time when the new one has
begun there. The weekday is that of the date as it is written. -/
theorem last_evening_of_century_read_in_new_york :
    sameName Zone.est.abbreviation.toList "est".toList = true ∧
      rfc850 "Thursday, 31-Dec-99 23:30:00 GMT".toList = some (.ok ⟨4102443000 * 1000000000, by decide, by decide⟩) ∧
      rfc850 "Thursday, 31-Dec-99 23:30:00 est".toList = some (.ok ⟨4102461000 * 1000000000, by decide, by decide⟩) ∧
      (Instant.date? ⟨4102461000 * 1000000000, by decide, by decide⟩).map Date.year = some 2100 := by
  have hname : sameName Zone.est.abbreviation.toList "est".toList = true := by decide
  have hread : rfc850 ("Thursday, 31-Dec-99 23:30:00 " ++ "GMT").toList =
      some (.ok ⟨4102443000 * 1000000000, by decide, by decide⟩) := by
    decide +kernel
  obtain ⟨j, hj, hnanos⟩ := rfc850_dates_read_exactly.2.2 "Thursday, 31-Dec-99 23:30:00 " "est" .est _ hname hread
  have hmoved : j = ⟨4102461000 * 1000000000, by decide, by decide⟩ := Instant.ext hnanos
  refine ⟨hname, hread, ?_, by decide +kernel⟩
  rw [← hmoved]
  exact hj

end Header

end RetryPolicy
