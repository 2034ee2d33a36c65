import RetryPolicy.Header.Fault
import RetryPolicy.Text.Scan
import RetryPolicy.Time.Span

/-!
# Delays in seconds

A delay is written as a run of ASCII digits, and in the decimal format perhaps a point and more digits. Whole seconds
are read to the second and decimal seconds to the millisecond below. A delay that does not fit is `tooLong`: whole
seconds from `2^64` on, decimal seconds from `2^64` milliseconds on. `DecimalText.scan_eq_some_iff` says that a text
has the decimal shape in one way at most.
-/

namespace RetryPolicy.Header

open Text

/-- A delay of whole seconds. -/
def wholeSeconds (cs : List Char) : Reading Span :=
  match run Char.isDigit cs with
  | some (_, []) => some (orFault (Span.ofSeconds? (value cs)) (.tooLong (String.ofList cs)))
  | _ => none

/-- The digits before and after the point of a delay; the point and the digits after it may be missing. -/
structure DecimalText where
  whole : List Char
  fraction : Option (List Char)
  deriving DecidableEq

namespace DecimalText

/-- The delay as it is written. -/
def text (d : DecimalText) : List Char :=
  d.whole ++ marked '.' d.fraction

/-- All that stands before and after the point is digits, and some stand before it. -/
def WellFormed (d : DecimalText) : Prop :=
  d.whole ≠ [] ∧ d.whole.all Char.isDigit = true ∧ ∀ f ∈ d.fraction, f.all Char.isDigit = true

/-- The parts of a delay. -/
def scan (cs : List Char) : Option DecimalText := do
  let (whole, cs) ← run Char.isDigit cs
  let (fraction, cs) ← ifMarked '.' (anyRun Char.isDigit) cs
  if cs = [] then some ⟨whole, fraction⟩ else none

theorem scan_eq_some_iff {cs : List Char} {d : DecimalText} : scan cs = some d ↔ d.WellFormed ∧ d.text = cs := by
  obtain ⟨whole, fraction⟩ := d
  constructor
  · intro h
    simp only [scan, bind, Option.bind_eq_some_iff, Option.ite_none_right_eq_some, Option.some.injEq] at h
    obtain ⟨⟨w, r⟩, h1, ⟨f, r'⟩, h2, rfl, hd⟩ := h
    cases hd
    obtain ⟨rfl, hne, hd, _⟩ := run_eq_some_iff.1 h1
    obtain ⟨v, r, rfl, rfl, h3⟩ | ⟨rfl, rfl, _⟩ := ifMarked_eq_some_iff.1 h2
    · obtain ⟨rfl, hf, _⟩ := anyRun_eq_some_iff.1 h3
      exact ⟨⟨hne, hd, by simpa using hf⟩, by simp [text, marked]⟩
    · exact ⟨⟨hne, hd, nofun⟩, by simp [text, marked]⟩
  · rintro ⟨⟨hne, hd, hf⟩, rfl⟩
    have h1 : run Char.isDigit (whole ++ marked '.' fraction) = some (whole, marked '.' fraction) :=
      run_append hne hd (by cases fraction <;> simp [marked])
    have h2 := ifMarked_append (m := '.') (f := anyRun Char.isDigit) (o := fraction) (r := [])
      (fun v hv => anyRun_append (hf v hv) nofun) (fun _ => nofun)
    rw [List.append_nil] at h2
    simp [scan, text, h1, h2]

/-- The milliseconds of the first three digits after the point, with zeros where digits are missing. -/
def fractionMillis (d : DecimalText) : Nat :=
  value (((d.fraction.getD []) ++ ['0', '0', '0']).take 3)

/-- The delay in whole milliseconds, rounded down. -/
def millis (d : DecimalText) : Nat :=
  value d.whole * 1000 + d.fractionMillis

end DecimalText

/-- A delay of seconds with a fraction. -/
def decimalSeconds (cs : List Char) : Reading Span :=
  (DecimalText.scan cs).map fun d =>
    orFault ((Millis.ofNat? d.millis).map Millis.span) (.tooLong (String.ofList cs))

end RetryPolicy.Header
