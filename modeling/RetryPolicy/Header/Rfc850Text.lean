import RetryPolicy.Header.ClockText
import RetryPolicy.Header.Stamp

/-!
# The date of RFC 850

An `Rfc850Text` holds the parts of a date such as `Thursday, 02-Jan-03 01:23:45 GMT`. The weekday and the zone are
words of any length, the weekday and the second may be missing, the day and the hour may have one digit, and each gap
is one ASCII space of any kind. The two digits of the year stand for the years 2000 to 2099.
`Rfc850Text.scan_eq_some_iff` says that a text has the shape of the format in one way at most.
-/

namespace RetryPolicy.Header

open Text

/-- The parts of a date. -/
structure Rfc850Text where
  weekday : Option WeekdayText
  day : List Char
  month : List Char
  year : List Char
  gap1 : Char
  clock : ClockText
  gap2 : Char
  zone : List Char
  deriving DecidableEq

namespace Rfc850Text

/-- A weekday in front is followed by a comma and its gap. -/
def weekdayText : Option WeekdayText → List Char
  | some w => w.name ++ ',' :: w.gap
  | none => []

/-- The date as it is written, without the weekday. -/
def bodyText (t : Rfc850Text) : List Char :=
  t.day ++ '-' :: (t.month ++ '-' :: (t.year ++ t.gap1 :: (t.clock.text ++ t.gap2 :: t.zone)))

/-- The date as it is written. -/
def text (t : Rfc850Text) : List Char :=
  weekdayText t.weekday ++ t.bodyText

/-- The weekday's name is a word, and one gap follows its comma. -/
def WeekdayFits (w : WeekdayText) : Prop :=
  w.name ≠ [] ∧ w.name.all isWord = true ∧ w.gap.length = 1 ∧ w.gap.all isGap = true

/-- The day has one or two digits, the month three word characters, the year two digits; the zone is a word. -/
def BodyFits (t : Rfc850Text) : Prop :=
  (t.day.length = 1 ∨ t.day.length = 2) ∧ t.day.all Char.isDigit = true ∧
    t.month.length = 3 ∧ t.month.all isWord = true ∧
    t.year.length = 2 ∧ t.year.all Char.isDigit = true ∧ isGap t.gap1 = true ∧
    t.clock.WellFormed ∧ isGap t.gap2 = true ∧ t.zone ≠ [] ∧ t.zone.all isWord = true

/-- The parts have the form of the format. -/
def WellFormed (t : Rfc850Text) : Prop :=
  (∀ w ∈ t.weekday, WeekdayFits w) ∧ t.BodyFits

/-- A weekday, a comma and a gap at the front of a text. -/
def scanWeekday (cs : List Char) : Option (WeekdayText × List Char) := do
  let (name, cs) ← run isWord cs
  let cs ← mark ',' cs
  let (gap, cs) ← exactly 1 isGap cs
  return (⟨name, gap⟩, cs)

/-- The parts after the weekday, up to the end of the text. -/
def scanBody (weekday : Option WeekdayText) (cs : List Char) : Option Rfc850Text := do
  let (day, cs) ← oneOrTwo Char.isDigit cs
  let cs ← mark '-' cs
  let (month, cs) ← exactly 3 isWord cs
  let cs ← mark '-' cs
  let (year, cs) ← exactly 2 Char.isDigit cs
  let (gap1, cs) ← one isGap cs
  let (clock, cs) ← ClockText.scan cs
  let (gap2, cs) ← one isGap cs
  let (zone, cs) ← run isWord cs
  if cs = [] then some ⟨weekday, day, month, year, gap1, clock, gap2, zone⟩ else none

/-- The parts of a date. -/
def scan (cs : List Char) : Option Rfc850Text :=
  match scanWeekday cs with
  | some (weekday, rest) => scanBody (some weekday) rest
  | none => scanBody none cs

/-- What the date says. -/
def stamp (t : Rfc850Text) : Stamp where
  weekday := t.weekday.map WeekdayText.name
  year := 2000 + value t.year
  month := t.month
  day := value t.day
  hour := value t.clock.hour
  minute := value t.clock.minute
  second := t.clock.secondValue
  zone := t.zone

theorem scanWeekday_eq_some_iff {cs r : List Char} {w : WeekdayText} :
    scanWeekday cs = some (w, r) ↔ WeekdayFits w ∧ cs = weekdayText (some w) ++ r := by
  constructor
  · intro h
    simp only [scanWeekday, bind, Option.bind_eq_some_iff, pure, Option.some.injEq, Prod.mk.injEq] at h
    obtain ⟨⟨name, _⟩, h1, _, h2, ⟨gap, _⟩, h3, rfl, rfl⟩ := h
    obtain ⟨rfl, hn, pn, _⟩ := run_eq_some_iff.1 h1
    obtain rfl := mark_eq_some_iff.1 h2
    obtain ⟨rfl, lg, pg⟩ := exactly_eq_some_iff.1 h3
    exact ⟨⟨hn, pn, lg, pg⟩, by simp [weekdayText]⟩
  · rintro ⟨⟨hn, pn, lg, pg⟩, rfl⟩
    have name := run_append hn pn (r := ',' :: (w.gap ++ r)) (by rintro _ ⟨⟩; decide)
    have gap := exactly_append lg pg (r := r)
    simp [scanWeekday, weekdayText, name, gap]

theorem scanBody_bodyText {t : Rfc850Text} (h : t.BodyFits) : scanBody t.weekday t.bodyText = some t := by
  obtain ⟨ld, pd, lm, pm, ly, py, g1, hc, g2, hz, pz⟩ := h
  have day := oneOrTwo_append ld pd
    (r := '-' :: (t.month ++ '-' :: (t.year ++ t.gap1 :: (t.clock.text ++ t.gap2 :: t.zone)))) (by simp)
  have month := exactly_append lm pm (r := '-' :: (t.year ++ t.gap1 :: (t.clock.text ++ t.gap2 :: t.zone)))
  have year := exactly_append ly py (r := t.gap1 :: (t.clock.text ++ t.gap2 :: t.zone))
  have clock := ClockText.scan_append hc (r := t.gap2 :: t.zone) fun _ h => by
    simp only [List.head?_cons, Option.mem_def, Option.some.injEq] at h
    rw [h] at g2
    revert g2
    decide
  have zone := run_append hz pz (r := []) nofun
  rw [List.append_nil] at zone
  simp [scanBody, bodyText, day, month, year, clock, zone, one_cons, g1, g2]

theorem scanBody_eq_some_iff {cs : List Char} {w : Option WeekdayText} {t : Rfc850Text} :
    scanBody w cs = some t ↔ t.BodyFits ∧ t.weekday = w ∧ t.bodyText = cs := by
  constructor
  · intro h
    simp only [scanBody, bind, Option.bind_eq_some_iff, Option.ite_none_right_eq_some, Option.some.injEq] at h
    obtain ⟨⟨day, _⟩, h1, _, h2, ⟨month, _⟩, h3, _, h4, ⟨year, _⟩, h5, ⟨gap1, _⟩, h6, ⟨clock, _⟩, h7, ⟨gap2, _⟩, h8,
      ⟨zone, _⟩, h9, he, rfl⟩ := h
    obtain ⟨rfl, ld, pd, _⟩ := oneOrTwo_eq_some_iff.1 h1
    obtain rfl := mark_eq_some_iff.1 h2
    obtain ⟨rfl, lm, pm⟩ := exactly_eq_some_iff.1 h3
    obtain rfl := mark_eq_some_iff.1 h4
    obtain ⟨rfl, ly, py⟩ := exactly_eq_some_iff.1 h5
    obtain ⟨rfl, g1⟩ := one_eq_some_iff.1 h6
    obtain ⟨hc, rfl, _⟩ := ClockText.scan_eq_some_iff.1 h7
    obtain ⟨rfl, g2⟩ := one_eq_some_iff.1 h8
    obtain ⟨rfl, hz, pz, _⟩ := run_eq_some_iff.1 h9
    simp only at he
    subst he
    exact ⟨⟨ld, pd, lm, pm, ly, py, g1, hc, g2, hz, pz⟩, rfl, by simp [bodyText]⟩
  · rintro ⟨h, rfl, rfl⟩
    exact scanBody_bodyText h

/-- A date that begins with its day does not begin with a weekday: its first word ends at a hyphen. -/
theorem scanWeekday_bodyText {t : Rfc850Text} (h : t.BodyFits) : scanWeekday t.bodyText = none := by
  obtain ⟨ld, pd, _⟩ := h
  have hne : t.day ≠ [] := by
    rintro hd
    simp [hd] at ld
  have day := run_append hne (all_isWord_of_all_isDigit pd)
    (r := '-' :: (t.month ++ '-' :: (t.year ++ t.gap1 :: (t.clock.text ++ t.gap2 :: t.zone)))) (by rintro _ ⟨⟩; decide)
  simp [scanWeekday, bodyText, day, mark]

/-- A text is put together from the parts that are found in it, and from no others. -/
theorem scan_eq_some_iff {cs : List Char} {t : Rfc850Text} : scan cs = some t ↔ t.WellFormed ∧ t.text = cs := by
  constructor
  · intro h
    unfold scan at h
    split at h
    · rename_i w r hw
      obtain ⟨hf, rfl⟩ := scanWeekday_eq_some_iff.1 hw
      obtain ⟨hb, hw', rfl⟩ := scanBody_eq_some_iff.1 h
      exact ⟨⟨by simpa [hw'] using hf, hb⟩, by rw [text, hw']⟩
    · obtain ⟨hb, hw', rfl⟩ := scanBody_eq_some_iff.1 h
      exact ⟨⟨by simp [hw'], hb⟩, by simp [text, hw', weekdayText]⟩
  · rintro ⟨⟨hw, hb⟩, rfl⟩
    cases hw' : t.weekday with
    | some w =>
      have := scanWeekday_eq_some_iff (r := t.bodyText).2 ⟨hw w hw', rfl⟩
      rw [scan, text, hw', this]
      exact scanBody_eq_some_iff.2 ⟨hb, hw', rfl⟩
    | none =>
      have e : t.text = t.bodyText := by simp [text, hw', weekdayText]
      rw [scan, e, scanWeekday_bodyText hb]
      exact scanBody_eq_some_iff.2 ⟨hb, hw', rfl⟩

end Rfc850Text

/-- A date such as `Thursday, 02-Jan-03 01:23:45 GMT`. -/
def rfc850 (cs : List Char) : Reading Instant :=
  (Rfc850Text.scan cs).map fun t => t.stamp.instant

end RetryPolicy.Header
