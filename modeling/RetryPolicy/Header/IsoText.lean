import RetryPolicy.Header.Fault
import RetryPolicy.Text.Scan
import RetryPolicy.Time.Instant

/-!
# ISO-8601 instants

An `IsoText` holds the parts of an instant such as `2003-01-02T01:23:45.678Z`: a date and a time in padded digits,
three, six or nine digits of a fraction if any, and a final `Z` for universal time. Here the time of day is checked
before the date, and the fraction is exact to the nanosecond. `IsoText.scan_eq_some_iff` says that a text has the
shape of the format in one way at most.
-/

namespace RetryPolicy.Header

open Text

/-- The parts of an instant. -/
structure IsoText where
  year : List Char
  month : List Char
  day : List Char
  hour : List Char
  minute : List Char
  second : List Char
  fraction : Option (List Char)
  deriving DecidableEq

namespace IsoText

/-- The instant as it is written. -/
def text (t : IsoText) : List Char :=
  t.year ++ '-' :: (t.month ++ '-' :: (t.day ++ 'T' :: (t.hour ++ ':' :: (t.minute ++ ':' :: (t.second ++
    (marked '.' t.fraction ++ ['Z']))))))

/-- A fraction has three, six or nine digits. -/
def FractionFits (f : List Char) : Prop :=
  (f.length = 3 ∨ f.length = 6 ∨ f.length = 9) ∧ f.all Char.isDigit = true

instance (f : List Char) : Decidable (FractionFits f) := inferInstanceAs (Decidable (_ ∧ _))

/-- The year has four digits and the other fields have two. -/
def WellFormed (t : IsoText) : Prop :=
  t.year.length = 4 ∧ t.year.all Char.isDigit = true ∧ t.month.length = 2 ∧ t.month.all Char.isDigit = true ∧
    t.day.length = 2 ∧ t.day.all Char.isDigit = true ∧ t.hour.length = 2 ∧ t.hour.all Char.isDigit = true ∧
    t.minute.length = 2 ∧ t.minute.all Char.isDigit = true ∧ t.second.length = 2 ∧ t.second.all Char.isDigit = true ∧
    ∀ f ∈ t.fraction, FractionFits f

/-- The digits of a fraction. -/
def scanFraction (cs : List Char) : Option (List Char × List Char) := do
  let (f, cs) ← run Char.isDigit cs
  if FractionFits f then some (f, cs) else none

/-- The parts of an instant. -/
def scan (cs : List Char) : Option IsoText := do
  let (year, cs) ← exactly 4 Char.isDigit cs
  let cs ← mark '-' cs
  let (month, cs) ← exactly 2 Char.isDigit cs
  let cs ← mark '-' cs
  let (day, cs) ← exactly 2 Char.isDigit cs
  let cs ← mark 'T' cs
  let (hour, cs) ← exactly 2 Char.isDigit cs
  let cs ← mark ':' cs
  let (minute, cs) ← exactly 2 Char.isDigit cs
  let cs ← mark ':' cs
  let (second, cs) ← exactly 2 Char.isDigit cs
  let (fraction, cs) ← ifMarked '.' scanFraction cs
  if cs = ['Z'] then some ⟨year, month, day, hour, minute, second, fraction⟩ else none

/-- The fraction in nanoseconds. -/
def nanos (t : IsoText) : Nat :=
  match t.fraction with
  | some f => value f * Nat.pow 10 (9 - f.length)
  | none => 0

/-- The time of day. -/
def time (t : IsoText) : Except Fault TimeOfDay :=
  orFault (TimeOfDay.ofFields? (value t.hour) (value t.minute) (value t.second))
    (.noSuchTime (value t.hour) (value t.minute) (value t.second))

/-- The date, if there is such a day. -/
def date (t : IsoText) : Except Fault Date :=
  orFault ((Month.ofNumber? (value t.month)).bind fun month => Date.ofFields? (value t.year) month (value t.day))
    .isoOutOfRange

/-- The instant, or its first fault. -/
def instant (t : IsoText) : Except Fault Instant := do
  let time ← t.time
  let date ← t.date
  return Instant.ofCivil date time .utc (Instant.fraction t.nanos)

/-- The parts are those of a date and a time of day. -/
structure Says (t : IsoText) (d : Date) (time : TimeOfDay) : Prop where
  year : value t.year = d.year
  month : Month.ofNumber? (value t.month) = some d.month
  day : value t.day = d.day
  hour : value t.hour = time.hour
  minute : value t.minute = time.minute
  second : value t.second = time.second

/-- An instant is accepted for the one date and time that its parts say, and its fraction. -/
theorem instant_eq_ok_iff {t : IsoText} {i : Instant} :
    t.instant = .ok i ↔
      ∃ d time, t.Says d time ∧ i = Instant.ofCivil d time .utc (Instant.fraction t.nanos) := by
  constructor
  · intro h
    simp only [instant, bind_eq_ok_iff, pure, Except.pure, Except.ok.injEq] at h
    obtain ⟨time, ht, d, hd, rfl⟩ := h
    rw [IsoText.time, orFault_eq_ok_iff, TimeOfDay.ofFields?_eq_some_iff] at ht
    rw [date, orFault_eq_ok_iff, Option.bind_eq_some_iff] at hd
    obtain ⟨month, hm, hd⟩ := hd
    obtain ⟨hy, rfl, hday⟩ := Date.ofFields?_eq_some_iff.1 hd
    obtain ⟨hh, hmin, hs⟩ := ht
    exact ⟨d, time, ⟨hy.symm, hm, hday.symm, hh.symm, hmin.symm, hs.symm⟩, rfl⟩
  · rintro ⟨d, time, h, rfl⟩
    have ht : t.time = .ok time :=
      orFault_eq_ok_iff.2 (TimeOfDay.ofFields?_eq_some_iff.2 ⟨h.hour.symm, h.minute.symm, h.second.symm⟩)
    have hd : t.date = .ok d :=
      orFault_eq_ok_iff.2 (Option.bind_eq_some_iff.2
        ⟨d.month, h.month, Date.ofFields?_eq_some_iff.2 ⟨h.year.symm, rfl, h.day.symm⟩⟩)
    simp only [instant, bind_eq_ok_iff, pure, Except.pure, Except.ok.injEq]
    exact ⟨time, ht, d, hd, rfl⟩

theorem scanFraction_eq_some_iff {cs f r : List Char} :
    scanFraction cs = some (f, r) ↔ FractionFits f ∧ cs = f ++ r ∧ ∀ c ∈ r.head?, c.isDigit = false := by
  constructor
  · intro h
    simp only [scanFraction, bind, Option.bind_eq_some_iff, Option.ite_none_right_eq_some, Option.some.injEq,
      Prod.mk.injEq] at h
    obtain ⟨⟨g, _⟩, h1, hf, rfl, rfl⟩ := h
    obtain ⟨rfl, _, _, hr⟩ := run_eq_some_iff.1 h1
    exact ⟨hf, rfl, hr⟩
  · rintro ⟨hf, rfl, hr⟩
    have hne : f ≠ [] := by
      rintro rfl
      simp [FractionFits] at hf
    simp [scanFraction, run_append hne hf.2 hr, hf]

/-- A text is put together from the parts that are found in it, and from no others. -/
theorem scan_eq_some_iff {cs : List Char} {t : IsoText} : scan cs = some t ↔ t.WellFormed ∧ t.text = cs := by
  constructor
  · intro h
    simp only [scan, bind, Option.bind_eq_some_iff, Option.ite_none_right_eq_some, Option.some.injEq] at h
    obtain ⟨⟨year, _⟩, h1, _, m1, ⟨month, _⟩, h2, _, m2, ⟨day, _⟩, h3, _, m3, ⟨hour, _⟩, h4, _, m4, ⟨minute, _⟩, h5,
      _, m5, ⟨second, _⟩, h6, ⟨fraction, _⟩, h7, he, rfl⟩ := h
    obtain ⟨rfl, l1, p1⟩ := exactly_eq_some_iff.1 h1
    obtain rfl := mark_eq_some_iff.1 m1
    obtain ⟨rfl, l2, p2⟩ := exactly_eq_some_iff.1 h2
    obtain rfl := mark_eq_some_iff.1 m2
    obtain ⟨rfl, l3, p3⟩ := exactly_eq_some_iff.1 h3
    obtain rfl := mark_eq_some_iff.1 m3
    obtain ⟨rfl, l4, p4⟩ := exactly_eq_some_iff.1 h4
    obtain rfl := mark_eq_some_iff.1 m4
    obtain ⟨rfl, l5, p5⟩ := exactly_eq_some_iff.1 h5
    obtain rfl := mark_eq_some_iff.1 m5
    obtain ⟨rfl, l6, p6⟩ := exactly_eq_some_iff.1 h6
    simp only at he
    subst he
    obtain ⟨v, _, rfl, rfl, h8⟩ | ⟨rfl, rfl, _⟩ := ifMarked_eq_some_iff.1 h7
    · obtain ⟨hf, rfl, _⟩ := scanFraction_eq_some_iff.1 h8
      refine ⟨⟨l1, p1, l2, p2, l3, p3, l4, p4, l5, p5, l6, p6, ?_⟩, by simp [text, marked]⟩
      rintro _ ⟨⟩
      exact hf
    · exact ⟨⟨l1, p1, l2, p2, l3, p3, l4, p4, l5, p5, l6, p6, nofun⟩, by simp [text, marked]⟩
  · rintro ⟨⟨l1, p1, l2, p2, l3, p3, l4, p4, l5, p5, l6, p6, hf⟩, rfl⟩
    have fraction := ifMarked_append (m := '.') (f := scanFraction) (o := t.fraction) (r := ['Z'])
      (fun v hv => scanFraction_eq_some_iff.2 ⟨hf v hv, rfl, by rintro _ ⟨⟩; decide⟩) (fun _ => by simp)
    simp [scan, text, exactly_append, *]

end IsoText

/-- An instant such as `2003-01-02T01:23:45Z`. -/
def iso8601 (cs : List Char) : Reading Instant :=
  (IsoText.scan cs).map IsoText.instant

end RetryPolicy.Header
