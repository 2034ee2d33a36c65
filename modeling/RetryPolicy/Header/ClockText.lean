import RetryPolicy.Text.Letters
import RetryPolicy.Text.Decimal
import RetryPolicy.Text.Scan

/-!
# Written times of day

The date formats share the way in which they write a time of day: a number of one or two digits for the hour, two
digits for the minute and, behind another colon, two for the second if it is written. `ClockText.scan_eq_some_iff`
says that the step takes just those texts.
-/

namespace RetryPolicy.Header

open Text

/-- A time of day as it is written: two numbers, or three with the second. -/
structure ClockText where
  hour : List Char
  minute : List Char
  second : Option (List Char)
  deriving DecidableEq

namespace ClockText

/-- The time as it is written, with colons. -/
def text (t : ClockText) : List Char :=
  t.hour ++ ':' :: (t.minute ++ marked ':' t.second)

/-- The hour has one or two digits, the minute and the second have two. -/
def WellFormed (t : ClockText) : Prop :=
  (t.hour.length = 1 ∨ t.hour.length = 2) ∧ t.hour.all Char.isDigit = true ∧
    t.minute.length = 2 ∧ t.minute.all Char.isDigit = true ∧
    ∀ s ∈ t.second, s.length = 2 ∧ s.all Char.isDigit = true

/-- A time of day at the front of a text. -/
def scan (cs : List Char) : Option (ClockText × List Char) := do
  let (hour, cs) ← oneOrTwo Char.isDigit cs
  let cs ← mark ':' cs
  let (minute, cs) ← exactly 2 Char.isDigit cs
  let (second, cs) ← ifMarked ':' (exactly 2 Char.isDigit) cs
  return (⟨hour, minute, second⟩, cs)

/-- The number of the second, which is zero when it is not written. -/
def secondValue (t : ClockText) : Nat :=
  value (t.second.getD [])

theorem scan_append {t : ClockText} {r : List Char} (ht : t.WellFormed) (hr : t.second = none → ':' ∉ r.head?) :
    scan (t.text ++ r) = some (t, r) := by
  obtain ⟨lh, ph, lm, pm, hs⟩ := ht
  have hour := oneOrTwo_append lh ph (r := ':' :: (t.minute ++ (marked ':' t.second ++ r))) (by simp)
  have minute := exactly_append lm pm (r := marked ':' t.second ++ r)
  have second := ifMarked_append (m := ':') (f := exactly 2 Char.isDigit) (o := t.second) (r := r)
    (fun v hv => exactly_append (hs v hv).1 (hs v hv).2) hr
  simp [scan, text, hour, minute, second]

/-- The step takes a well-formed time of day, with the second if it is there. -/
theorem scan_eq_some_iff {cs r : List Char} {t : ClockText} :
    scan cs = some (t, r) ↔ t.WellFormed ∧ cs = t.text ++ r ∧ (t.second = none → ':' ∉ r.head?) := by
  constructor
  · intro h
    simp only [scan, bind, Option.bind_eq_some_iff, pure, Option.some.injEq, Prod.mk.injEq] at h
    obtain ⟨⟨hour, _⟩, h1, _, h2, ⟨minute, _⟩, h3, ⟨second, _⟩, h4, rfl, rfl⟩ := h
    obtain ⟨rfl, lh, ph, _⟩ := oneOrTwo_eq_some_iff.1 h1
    obtain rfl := mark_eq_some_iff.1 h2
    obtain ⟨rfl, lm, pm⟩ := exactly_eq_some_iff.1 h3
    obtain ⟨v, _, rfl, rfl, h5⟩ | ⟨rfl, rfl, hr⟩ := ifMarked_eq_some_iff.1 h4
    · obtain ⟨rfl, ls, ps⟩ := exactly_eq_some_iff.1 h5
      refine ⟨⟨lh, ph, lm, pm, ?_⟩, by simp [text, marked], nofun⟩
      rintro _ ⟨⟩
      exact ⟨ls, ps⟩
    · exact ⟨⟨lh, ph, lm, pm, nofun⟩, by simp [text, marked], fun _ => hr⟩
  · rintro ⟨ht, rfl, hr⟩
    exact scan_append ht hr

end ClockText

/-- A weekday's name and the gap between it and the date. -/
structure WeekdayText where
  name : List Char
  gap : List Char
  deriving DecidableEq

end RetryPolicy.Header
