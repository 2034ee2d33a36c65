import RetryPolicy.Header.ClockText
import RetryPolicy.Header.Stamp

/-!
# The date of `asctime`

An `AsctimeText` holds the parts of a date such as `Thu Jan  2 01:23:45 2003`. The weekday and the second may be
missing, the day and the hour may have one digit, and a gap is one ASCII space of any kind or more, but only one after
the day. The weekday and the month look alike; what follows tells them apart, and `AsctimeText.scan_eq_some_iff` says
that a text has the shape of the format in one way at most.
-/

namespace RetryPolicy.Header

open Text

/-- The parts of a date. -/
structure AsctimeText where
  weekday : Option WeekdayText
  month : List Char
  gap1 : List Char
  day : List Char
  gap2 : Char
  clock : ClockText
  gap3 : List Char
  year : List Char
  deriving DecidableEq

namespace AsctimeText

/-- A weekday in front is followed by its gap alone. -/
def weekdayText : Option WeekdayText → List Char
  | some w => w.name ++ w.gap
  | none => []

/-- The date as it is written, without the weekday. -/
def bodyText (t : AsctimeText) : List Char :=
  t.month ++ (t.gap1 ++ (t.day ++ t.gap2 :: (t.clock.text ++ (t.gap3 ++ t.year))))

/-- The date as it is written. -/
def text (t : AsctimeText) : List Char :=
  weekdayText t.weekday ++ t.bodyText

/-- The weekday's name has three word characters, and a gap follows. -/
def WeekdayFits (w : WeekdayText) : Prop :=
  w.name.length = 3 ∧ w.name.all isWord = true ∧ w.gap ≠ [] ∧ w.gap.all isGap = true

/-- The month has three word characters, the day one or two digits, the year four digits. -/
def BodyFits (t : AsctimeText) : Prop :=
  t.month.length = 3 ∧ t.month.all isWord = true ∧ t.gap1 ≠ [] ∧ t.gap1.all isGap = true ∧
    (t.day.length = 1 ∨ t.day.length = 2) ∧ t.day.all Char.isDigit = true ∧ isGap t.gap2 = true ∧
    t.clock.WellFormed ∧ t.gap3 ≠ [] ∧ t.gap3.all isGap = true ∧
    t.year.length = 4 ∧ t.year.all Char.isDigit = true

/-- The parts have the form of the format. -/
def WellFormed (t : AsctimeText) : Prop :=
  (∀ w ∈ t.weekday, WeekdayFits w) ∧ t.BodyFits

/-- A weekday and a gap at the front of a text. -/
def scanWeekday (cs : List Char) : Option (WeekdayText × List Char) := do
  let (name, cs) ← exactly 3 isWord cs
  let (gap, cs) ← run isGap cs
  return (⟨name, gap⟩, cs)

/-- The parts after the weekday, up to the end of the text. -/
def scanBody (weekday : Option WeekdayText) (cs : List Char) : Option AsctimeText := do
  let (month, cs) ← exactly 3 isWord cs
  let (gap1, cs) ← run isGap cs
  let (day, cs) ← oneOrTwo Char.isDigit cs
  let (gap2, cs) ← one isGap cs
  let (clock, cs) ← ClockText.scan cs
  let (gap3, cs) ← run isGap cs
  let (year, cs) ← exactly 4 Char.isDigit cs
  if cs = [] then some ⟨weekday, month, gap1, day, gap2, clock, gap3, year⟩ else none

/-- The parts of a date with a weekday in front. -/
def scanWithWeekday (cs : List Char) : Option AsctimeText := do
  let (weekday, cs) ← scanWeekday cs
  scanBody (some weekday) cs

/-- The parts of a date. -/
def scan (cs : List Char) : Option AsctimeText :=
  match scanWithWeekday cs with
  | some t => some t
  | none => scanBody none cs

/-- What the date says. -/
def stamp (t : AsctimeText) : Stamp where
  weekday := t.weekday.map WeekdayText.name
  year := value t.year
  month := t.month
  day := value t.day
  hour := value t.clock.hour
  minute := value t.clock.minute
  second := t.clock.secondValue

theorem scanWeekday_eq_some_iff {cs r : List Char} {w : WeekdayText} :
    scanWeekday cs = some (w, r) ↔
      WeekdayFits w ∧ cs = weekdayText (some w) ++ r ∧ ∀ c ∈ r.head?, isGap c = false := by
  constructor
  · intro h
    simp only [scanWeekday, bind, Option.bind_eq_some_iff, pure, Option.some.injEq, Prod.mk.injEq] at h
    obtain ⟨⟨name, _⟩, h1, ⟨gap, _⟩, h2, rfl, rfl⟩ := h
    obtain ⟨rfl, ln, pn⟩ := exactly_eq_some_iff.1 h1
    obtain ⟨rfl, hg, pg, hr⟩ := run_eq_some_iff.1 h2
    exact ⟨⟨ln, pn, hg, pg⟩, by simp [weekdayText], hr⟩
  · rintro ⟨⟨ln, pn, hg, pg⟩, rfl, hr⟩
    have name := exactly_append ln pn (r := w.gap ++ r)
    have gap := run_append hg pg hr
    simp [scanWeekday, weekdayText, name, gap]

theorem isGap_head?_of_length {v r : List Char} {n : Nat} (hl : v.length = n + 1) (hp : v.all isWord = true) :
    ∀ c ∈ (v ++ r).head?, isGap c = false := by
  match v, hl with
  | a :: v, _ =>
    rintro _ ⟨⟩
    simp only [List.all_cons, Bool.and_eq_true] at hp
    exact isGap_eq_false_of_isWord hp.1

/-- A day is no gap. -/
theorem isGap_head?_day {v r : List Char} (hl : v.length = 1 ∨ v.length = 2) (hp : v.all Char.isDigit = true) :
    ∀ c ∈ (v ++ r).head?, isGap c = false :=
  hl.elim (fun hl => isGap_head?_of_length hl (all_isWord_of_all_isDigit hp))
    fun hl => isGap_head?_of_length hl (all_isWord_of_all_isDigit hp)

theorem scanBody_bodyText {t : AsctimeText} (h : t.BodyFits) : scanBody t.weekday t.bodyText = some t := by
  obtain ⟨lm, pm, hg1, pg1, ld, pd, g2, hc, hg3, pg3, ly, py⟩ := h
  have month := exactly_append lm pm
    (r := t.gap1 ++ (t.day ++ t.gap2 :: (t.clock.text ++ (t.gap3 ++ t.year))))
  have gap1 := run_append hg1 pg1 (r := t.day ++ t.gap2 :: (t.clock.text ++ (t.gap3 ++ t.year)))
    (isGap_head?_day ld pd)
  have day := oneOrTwo_append ld pd (r := t.gap2 :: (t.clock.text ++ (t.gap3 ++ t.year)))
    (by simpa using isDigit_eq_false_of_isGap g2)
  have clock := ClockText.scan_append hc (r := t.gap3 ++ t.year) fun _ h => by
    match he : t.gap3, hg3 with
    | g :: gs, _ =>
      rw [he] at h pg3
      simp only [List.cons_append, List.head?_cons, Option.mem_def, Option.some.injEq] at h
      rw [h] at pg3
      revert pg3
      simp [isGap]
  have gap3 := run_append hg3 pg3 (r := t.year ++ [])
    (isGap_head?_of_length ly (all_isWord_of_all_isDigit py))
  have year := exactly_append ly py (r := [])
  rw [List.append_nil] at gap3 year
  simp [scanBody, bodyText, month, gap1, day, clock, gap3, year, one_cons, g2]

theorem scanBody_eq_some_iff {cs : List Char} {w : Option WeekdayText} {t : AsctimeText} :
    scanBody w cs = some t ↔ t.BodyFits ∧ t.weekday = w ∧ t.bodyText = cs := by
  constructor
  · intro h
    simp only [scanBody, bind, Option.bind_eq_some_iff, Option.ite_none_right_eq_some, Option.some.injEq] at h
    obtain ⟨⟨month, _⟩, h1, ⟨gap1, _⟩, h2, ⟨day, _⟩, h3, ⟨gap2, _⟩, h4, ⟨clock, _⟩, h5, ⟨gap3, _⟩, h6, ⟨year, _⟩, h7,
      he, rfl⟩ := h
    obtain ⟨rfl, lm, pm⟩ := exactly_eq_some_iff.1 h1
    obtain ⟨rfl, hg1, pg1, _⟩ := run_eq_some_iff.1 h2
    obtain ⟨rfl, ld, pd, _⟩ := oneOrTwo_eq_some_iff.1 h3
    obtain ⟨rfl, g2⟩ := one_eq_some_iff.1 h4
    obtain ⟨hc, rfl, _⟩ := ClockText.scan_eq_some_iff.1 h5
    obtain ⟨rfl, hg3, pg3, _⟩ := run_eq_some_iff.1 h6
    obtain ⟨rfl, ly, py⟩ := exactly_eq_some_iff.1 h7
    simp only at he
    subst he
    exact ⟨⟨lm, pm, hg1, pg1, ld, pd, g2, hc, hg3, pg3, ly, py⟩, rfl, by simp [bodyText]⟩
  · rintro ⟨h, rfl, rfl⟩
    exact scanBody_bodyText h

/-- A date that begins with its month has no weekday in front: the day that follows is too short for a month. -/
theorem scanWithWeekday_bodyText {t : AsctimeText} (h : t.BodyFits) : scanWithWeekday t.bodyText = none := by
  obtain ⟨lm, pm, hg1, pg1, ld, pd, g2, _⟩ := h
  have month := scanWeekday_eq_some_iff (w := ⟨t.month, t.gap1⟩)
    (r := t.day ++ t.gap2 :: (t.clock.text ++ (t.gap3 ++ t.year))).2
    ⟨⟨lm, pm, hg1, pg1⟩, rfl, isGap_head?_day ld pd⟩
  have e : t.bodyText = weekdayText (some ⟨t.month, t.gap1⟩) ++
      (t.day ++ t.gap2 :: (t.clock.text ++ (t.gap3 ++ t.year))) := by
    simp [bodyText, weekdayText]
  rw [scanWithWeekday, e, month]
  have hw := isWord_eq_false_of_isGap g2
  have : exactly 3 isWord (t.day ++ t.gap2 :: (t.clock.text ++ (t.gap3 ++ t.year))) = none := by
    rw [Option.eq_none_iff_forall_ne_some]
    rintro ⟨name, r⟩ hs
    obtain ⟨he, ln, pn⟩ := exactly_eq_some_iff.1 hs
    match name, ln with
    | [x, y, z], _ =>
      simp only [List.all_cons, List.all_nil, Bool.and_true, Bool.and_eq_true] at pn
      rcases ld with ld | ld
      · match hd : t.day, ld with
        | [a], _ =>
          simp only [hd, List.cons_append, List.nil_append, List.cons.injEq] at he
          rw [he.2.1, pn.2.1] at hw
          cases hw
      · match hd : t.day, ld with
        | [a, b], _ =>
          simp only [hd, List.cons_append, List.nil_append, List.cons.injEq] at he
          rw [he.2.2.1, pn.2.2] at hw
          cases hw
  simp [scanBody, this]

/-- A text is put together from the parts that are found in it, and from no others. -/
theorem scan_eq_some_iff {cs : List Char} {t : AsctimeText} : scan cs = some t ↔ t.WellFormed ∧ t.text = cs := by
  constructor
  · intro h
    unfold scan at h
    split at h
    · rename_i t' hw
      cases h
      simp only [scanWithWeekday, bind, Option.bind_eq_some_iff] at hw
      obtain ⟨⟨w, r⟩, h1, h2⟩ := hw
      obtain ⟨hf, rfl, _⟩ := scanWeekday_eq_some_iff.1 h1
      obtain ⟨hb, hw', he⟩ := scanBody_eq_some_iff.1 h2
      exact ⟨⟨by simpa [hw'] using hf, hb⟩, by rw [text, hw', he]⟩
    · obtain ⟨hb, hw', rfl⟩ := scanBody_eq_some_iff.1 h
      exact ⟨⟨by simp [hw'], hb⟩, by simp [text, hw', weekdayText]⟩
  · rintro ⟨⟨hw, hb⟩, rfl⟩
    cases hw' : t.weekday with
    | some w =>
      have h1 := scanWeekday_eq_some_iff (r := t.bodyText).2
        ⟨hw w hw', rfl, isGap_head?_of_length hb.1 hb.2.1⟩
      have h2 : scanWithWeekday t.text = some t := by
        rw [scanWithWeekday, text, hw', h1]
        exact scanBody_eq_some_iff.2 ⟨hb, hw', rfl⟩
      rw [scan, h2]
    | none =>
      have e : t.text = t.bodyText := by simp [text, hw', weekdayText]
      rw [scan, e, scanWithWeekday_bodyText hb]
      exact scanBody_eq_some_iff.2 ⟨hb, hw', rfl⟩

end AsctimeText

/-- A date such as `Thu Jan  2 01:23:45 2003`. -/
def asctime (cs : List Char) : Reading Instant :=
  (AsctimeText.scan cs).map fun t => t.stamp.instant

end RetryPolicy.Header
