import RetryPolicy.Proofs.Delays
import RetryPolicy.Proofs.WrittenDates

/-!
# Which texts are ISO-8601 instants

A text is an ISO-8601 instant exactly when it can be split into the parts of one, and they are those of a date and a time of
day that exist. It names the instant of that date and time in universal time and the written fraction of a second after it,
to the nanosecond (`iso_instants_read_exactly`): three, six or nine digits behind the point count thousandths, millionths or
billionths, so none of them is lost (`IsoText.nanos_eq`).
-/

namespace RetryPolicy

open Text Header

/-- A fraction of a second comes on top of the whole seconds. -/
theorem Instant.nanos_ofCivil_fraction (d : Date) (time : TimeOfDay) (zone : Zone) {n : Nat} (h : n < 1000000000) :
    (ofCivil d time zone (fraction n)).nanos = (ofCivil d time zone (fraction 0)).nanos + n := by
  simp only [ofCivil, val_fraction h]
  simp [fraction]

namespace Header

namespace IsoText

/-- A fraction of a second is less than one second. -/
theorem nanos_lt {t : IsoText} (h : t.WellFormed) : t.nanos < 1000000000 := by
  obtain ⟨-, -, -, -, -, -, -, -, -, -, -, -, hf⟩ := h
  unfold nanos
  cases hv : t.fraction with
  | none => exact Nat.zero_lt_succ _
  | some f =>
    obtain ⟨hl, pf⟩ := hf f hv
    have hle : f.length ≤ 9 := by omega
    calc value f * 10 ^ (9 - f.length)
      _ < 10 ^ f.length * 10 ^ (9 - f.length) := Nat.mul_lt_mul_of_pos_right (value_lt pf) (Nat.pow_pos (by decide))
      _ = 1000000000 := by rw [← Nat.pow_add, Nat.add_sub_cancel' hle]

/-- The digits behind the point are counted in nanoseconds without rounding. -/
theorem nanos_eq {t : IsoText} (h : t.WellFormed) :
    (t.nanos : ℚ) = pointValue [] (t.fraction.getD []) * 10 ^ 9 := by
  obtain ⟨-, -, -, -, -, -, -, -, -, -, -, -, hf⟩ := h
  unfold nanos pointValue
  cases hv : t.fraction with
  | none => simp
  | some f =>
    obtain ⟨hl, -⟩ := hf f hv
    have hle : f.length ≤ 9 := by omega
    have hpow : (10 : ℚ) ^ 9 = 10 ^ f.length * 10 ^ (9 - f.length) := by
      rw [← pow_add, Nat.add_sub_cancel' hle]
    have hcast : ((Nat.pow 10 (9 - f.length) : ℕ) : ℚ) = 10 ^ (9 - f.length) := Nat.cast_pow 10 _
    simp only [Option.getD_some, value_nil, Nat.cast_mul, hcast, Nat.cast_zero, zero_add, hpow]
    field_simp

/-- Parts name an instant when they say a date and a time of day: that of these and the written fraction of a second. -/
theorem instant_eq_ok_iff_of_wellFormed {t : IsoText} (h : t.WellFormed) {i : Instant} :
    t.instant = .ok i ↔
      ∃ d time, t.Says d time ∧ (i.nanos : ℚ) = (Instant.ofCivil d time .utc (Instant.fraction 0)).nanos +
        pointValue [] (t.fraction.getD []) * 10 ^ 9 := by
  have hnanos : ∀ d time, (i.nanos : ℚ) = (Instant.ofCivil d time .utc (Instant.fraction 0)).nanos +
      pointValue [] (t.fraction.getD []) * 10 ^ 9 ↔ i = Instant.ofCivil d time .utc (Instant.fraction t.nanos) := by
    intro d time
    have hsum := Instant.nanos_ofCivil_fraction d time .utc (nanos_lt h)
    rw [← nanos_eq h]
    constructor
    · intro hi
      apply Instant.ext
      rw [hsum]
      exact_mod_cast hi
    · rintro rfl
      rw [hsum]
      push_cast
      rfl
  simp only [instant_eq_ok_iff, hnanos]

end IsoText

/-- The texts that are ISO-8601 instants. A text is read exactly when it can be split into digits of the right widths with their
signs and letters between, they are those of a date of the calendar and of a time of day, and a fraction behind a point has
three, six or nine digits; what is read is the instant of that date and time in universal time and the written fraction of a
second after it. -/
theorem iso_instants_read_exactly (text : String) (i : Instant) :
    iso8601 text.toList = some (.ok i) ↔
      ∃ (parts : IsoText) (d : Date) (time : TimeOfDay),
        (parts.WellFormed ∧ parts.text = text.toList) ∧ parts.Says d time ∧
          (i.nanos : ℚ) = (Instant.ofCivil d time .utc (Instant.fraction 0)).nanos +
            pointValue [] (parts.fraction.getD []) * 10 ^ 9 := by
  rw [iso8601, read_parts_iff IsoText.scan_eq_some_iff]
  constructor
  · rintro ⟨parts, ⟨hw, htext⟩, hi⟩
    obtain ⟨d, time, hs, hi⟩ := (IsoText.instant_eq_ok_iff_of_wellFormed hw).1 hi
    exact ⟨parts, d, time, ⟨hw, htext⟩, hs, hi⟩
  · rintro ⟨parts, d, time, ⟨hw, htext⟩, hs, hi⟩
    exact ⟨parts, ⟨hw, htext⟩, (IsoText.instant_eq_ok_iff_of_wellFormed hw).2 ⟨d, time, hs, hi⟩⟩

/-- One nanosecond into the last second of a leap day: year 0 counts as a full century of the fourth kind. -/
example : iso8601 "0000-02-29T23:59:59.000000001Z".toList = some (.ok ⟨-62162035200999999999, by decide, by decide⟩) := by
  decide +kernel

end Header

end RetryPolicy
