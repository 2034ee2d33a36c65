import RetryPolicy.Header.ClockText
import RetryPolicy.Header.Stamp

/-!
# The date of mail and HTTP

An `ImfText` holds the parts of a date such as `Thu, 02 Jan 2003 01:23:45 GMT`, down to the gaps between them. The
weekday and the second may be missing, the day and the hour may have one digit, and each gap is one ASCII space of any
kind. `ImfText.scan_eq_some_iff` says that a text has the shape of the format in one way at most.
-/

namespace RetryPolicy.Header

open Text

/-- The parts of a date. -/
structure ImfText where
  weekday : Option WeekdayText
  day : List Char
  gap1 : Char
  month : List Char
  gap2 : Char
  year : List Char
  gap3 : Char
  clock : ClockText
  gap4 : Char
  deriving DecidableEq

namespace ImfText

/-- A weekday in front is followed by a comma and its gap. -/
def weekdayText : Option WeekdayText → List Char
  | some w => w.name ++ ',' :: w.gap
  | none => []

/-- The date as it is written, without the weekday. -/
def bodyText (t : ImfText) : List Char :=
  t.day ++ t.gap1 :: (t.month ++ t.gap2 :: (t.year ++ t.gap3 :: (t.clock.text ++ [t.gap4, 'G', 'M', 'T'])))

/-- The date as it is written. -/
def text (t : ImfText) : List Char :=
  weekdayText t.weekday ++ t.bodyText

/-- The weekday's name has three word characters, and one gap follows its comma. -/
def WeekdayFits (w : WeekdayText) : Prop :=
  w.name.length = 3 ∧ w.name.all isWord = true ∧ w.gap.length = 1 ∧ w.gap.all isGap = true

/-- The day has one or two digits, the month three word characters, the year four digits. -/
def BodyFits (t : ImfText) : Prop :=
  (t.day.length = 1 ∨ t.day.length = 2) ∧ t.day.all Char.isDigit = true ∧ isGap t.gap1 = true ∧
    t.month.length = 3 ∧ t.month.all isWord = true ∧ isGap t.gap2 = true ∧
    t.year.length = 4 ∧ t.year.all Char.isDigit = true ∧ isGap t.gap3 = true ∧
    t.clock.WellFormed ∧ isGap t.gap4 = true

/-- The parts have the form of the format. -/
def WellFormed (t : ImfText) : Prop :=
  (∀ w ∈ t.weekday, WeekdayFits w) ∧ t.BodyFits

/-- A weekday, a comma and a gap at the front of a text. -/
def scanWeekday (cs : List Char) : Option (WeekdayText × List Char) := do
  let (name, cs) ← exactly 3 isWord cs
  let cs ← mark ',' cs
  let (gap, cs) ← exactly 1 isGap cs
  return (⟨name, gap⟩, cs)

/-- The parts after the weekday, up to the end of the text. -/
def scanBody (weekday : Option WeekdayText) (cs : List Char) : Option ImfText := do
  let (day, cs) ← oneOrTwo Char.isDigit cs
  let (gap1, cs) ← one isGap cs
  let (month, cs) ← exactly 3 isWord cs
  let (gap2, cs) ← one isGap cs
  let (year, cs) ← exactly 4 Char.isDigit cs
  let (gap3, cs) ← one isGap cs
  let (clock, cs) ← ClockText.scan cs
  let (gap4, cs) ← one isGap cs
  if cs = ['G', 'M', 'T'] then some ⟨weekday, day, gap1, month, gap2, year, gap3, clock, gap4⟩ else none

/-- The parts of a date. -/
def scan (cs : List Char) : Option ImfText :=
  match scanWeekday cs with
  | some (weekday, rest) => scanBody (some weekday) rest
  | none => scanBody none cs

/-- What the date says. -/
def stamp (t : ImfText) : Stamp where
  weekday := t.weekday.map WeekdayText.name
  year := value t.year
  month := t.month
  day := value t.day
  hour := value t.clock.hour
  minute := value t.clock.minute
  second := t.clock.secondValue

theorem scanWeekday_eq_some_iff {cs r : List Char} {w : WeekdayText} :
    scanWeekday cs = some (w, r) ↔ WeekdayFits w ∧ cs = weekdayText (some w) ++ r := by
  constructor
  · intro h
    simp only [scanWeekday, bind, Option.bind_eq_some_iff, pure, Option.some.injEq, Prod.mk.injEq] at h
    obtain ⟨⟨name, _⟩, h1, _, h2, ⟨gap, _⟩, h3, rfl, rfl⟩ := h
    obtain ⟨rfl, ln, pn⟩ := exactly_eq_some_iff.1 h1
    obtain rfl := mark_eq_some_iff.1 h2
    obtain ⟨rfl, lg, pg⟩ := exactly_eq_some_iff.1 h3
    exact ⟨⟨ln, pn, lg, pg⟩, by simp [weekdayText]⟩
  · rintro ⟨⟨ln, pn, lg, pg⟩, rfl⟩
    have name := exactly_append ln pn (r := ',' :: (w.gap ++ r))
    have gap := exactly_append lg pg (r := r)
    simp [scanWeekday, weekdayText, name, gap]

theorem scanBody_bodyText {t : ImfText} (h : t.BodyFits) : scanBody t.weekday t.bodyText = some t := by
  obtain ⟨ld, pd, g1, lm, pm, g2, ly, py, g3, hc, g4⟩ := h
  have day := oneOrTwo_append ld pd (r := t.gap1 :: (t.month ++ t.gap2 :: (t.year ++ t.gap3 :: (t.clock.text ++
    [t.gap4, 'G', 'M', 'T'])))) (by simpa using isDigit_eq_false_of_isGap g1)
  have month := exactly_append lm pm (r := t.gap2 :: (t.year ++ t.gap3 :: (t.clock.text ++ [t.gap4, 'G', 'M', 'T'])))
  have year := exactly_append ly py (r := t.gap3 :: (t.clock.text ++ [t.gap4, 'G', 'M', 'T']))
  have clock := ClockText.scan_append hc (r := [t.gap4, 'G', 'M', 'T']) fun _ h => by
    simp only [List.head?_cons, Option.mem_def, Option.some.injEq] at h
    rw [h] at g4
    revert g4
    decide
  simp [scanBody, bodyText, day, month, year, clock, one_cons, g1, g2, g3, g4]

theorem scanBody_eq_some_iff {cs : List Char} {w : Option WeekdayText} {t : ImfText} :
    scanBody w cs = some t ↔ t.BodyFits ∧ t.weekday = w ∧ t.bodyText = cs := by
  constructor
  · intro h
    simp only [scanBody, bind, Option.bind_eq_some_iff, Option.ite_none_right_eq_some, Option.some.injEq] at h
    obtain ⟨⟨day, _⟩, h1, ⟨gap1, _⟩, h2, ⟨month, _⟩, h3, ⟨gap2, _⟩, h4, ⟨year, _⟩, h5, ⟨gap3, _⟩, h6, ⟨clock, _⟩, h7,
      ⟨gap4, _⟩, h8, he, rfl⟩ := h
    obtain ⟨rfl, ld, pd, _⟩ := oneOrTwo_eq_some_iff.1 h1
    obtain ⟨rfl, g1⟩ := one_eq_some_iff.1 h2
    obtain ⟨rfl, lm, pm⟩ := exactly_eq_some_iff.1 h3
    obtain ⟨rfl, g2⟩ := one_eq_some_iff.1 h4
    obtain ⟨rfl, ly, py⟩ := exactly_eq_some_iff.1 h5
    obtain ⟨rfl, g3⟩ := one_eq_some_iff.1 h6
    obtain ⟨hc, rfl, _⟩ := ClockText.scan_eq_some_iff.1 h7
    obtain ⟨rfl, g4⟩ := one_eq_some_iff.1 h8
    simp only at he
    subst he
    exact ⟨⟨ld, pd, g1, lm, pm, g2, ly, py, g3, hc, g4⟩, rfl, by simp [bodyText]⟩
  · rintro ⟨h, rfl, rfl⟩
    exact scanBody_bodyText h

/-- A date that begins with its day does not begin with a weekday: the gap comes too soon. -/
theorem scanWeekday_bodyText {t : ImfText} (h : t.BodyFits) : scanWeekday t.bodyText = none := by
  rw [Option.eq_none_iff_forall_ne_some]
  rintro ⟨⟨name, gap⟩, r⟩ hs
  obtain ⟨⟨ln, pn, _⟩, he⟩ := scanWeekday_eq_some_iff.1 hs
  obtain ⟨ld, _, g1, _⟩ := h
  have hw := isWord_eq_false_of_isGap g1
  match name, ln with
  | [x, y, z], _ =>
    simp only [List.all_cons, List.all_nil, Bool.and_true, Bool.and_eq_true] at pn
    obtain ⟨_, py, pz⟩ := pn
    rcases ld with ld | ld
    · match hd : t.day, ld with
      | [a], _ =>
        simp only [bodyText, weekdayText, hd, List.cons_append, List.nil_append, List.cons.injEq] at he
        rw [he.2.1, py] at hw
        cases hw
    · match hd : t.day, ld with
      | [a, b], _ =>
        simp only [bodyText, weekdayText, hd, List.cons_append, List.nil_append, List.cons.injEq] at he
        rw [he.2.2.1, pz] at hw
        cases hw

/-- A text is put together from the parts that are found in it, and from no others. -/
theorem scan_eq_some_iff {cs : List Char} {t : ImfText} : scan cs = some t ↔ t.WellFormed ∧ t.text = cs := by
  constructor
  · intro h
    unfold scan at h
    split at h
    · rename_i w r hw
      obtain ⟨hf, rfl⟩ := scanWeekday_eq_some_iff.1 hw
      obtain ⟨hb, hw', rfl⟩ := scanBody_eq_some_iff.1 h
      exact ⟨⟨by simpa [hw'] using hf, hb⟩, by rw [text, hw']⟩
    · obtain ⟨hb, hw', rfl⟩ := scanBody_eq_some_iff.1 h
      exact ⟨⟨by simp [hw'], hb⟩, by simp [text, hw', weekdayText]⟩
  · rintro ⟨⟨hw, hb⟩, rfl⟩
    cases hw' : t.weekday with
    | some w =>
      have := scanWeekday_eq_some_iff (r := t.bodyText).2 ⟨hw w hw', rfl⟩
      rw [scan, text, hw', this]
      exact scanBody_eq_some_iff.2 ⟨hb, hw', rfl⟩
    | none =>
      have e : t.text = t.bodyText := by simp [text, hw', weekdayText]
      rw [scan, e, scanWeekday_bodyText hb]
      exact scanBody_eq_some_iff.2 ⟨hb, hw', rfl⟩

end ImfText

/-- A date such as `Thu, 02 Jan 2003 01:23:45 GMT`. -/
def imfFixdate (cs : List Char) : Reading Instant :=
  (ImfText.scan cs).map fun t => t.stamp.instant

end RetryPolicy.Header
