import Mathlib.Algebra.Order.Floor.Semifield
import Mathlib.Data.Rat.Floor
import RetryPolicy.Proofs.Shapes

/-!
# Which texts are delays, and how long they are

A delay in whole seconds is a run of ASCII digits, and it lasts as many seconds as they say. A delay in decimal seconds may
have a point behind the digits, and more digits or none behind that; it denotes a rational number of seconds (`pointValue`)
and lasts the whole milliseconds in it. Both are limited by 64 bits, the one in seconds and the other in milliseconds, and no
other text is a delay (`delays_read_exactly`).

Three digits after the point are read, with zeros for those that are missing. That the rest may be cut off is a division:
`value_take_three` says that these digits are the thousandths of the fraction, rounded down.
-/

namespace RetryPolicy.Header

open Text

/-! ## Digits after the point -/

/-- A run of three digits or fewer, with zeros up to three, counts thousandths exactly. -/
theorem value_append_zeros {f : List Char} {n : Nat} (h : f.length + n = 3) :
    value (f ++ List.replicate n '0') = value f * 1000 / Nat.pow 10 f.length := by
  have hzeros : value (List.replicate n '0') = 0 := by
    rw [value, Nat.ofDigitChars_replicate_zero, Nat.mul_zero]
  have hpow : Nat.pow 10 n * Nat.pow 10 f.length = 1000 := by
    rw [Nat.mul_comm]
    show 10 ^ f.length * 10 ^ n = 10 ^ 3
    rw [← Nat.pow_add, h]
  have hpos : 0 < Nat.pow 10 f.length := Nat.pow_pos (by decide)
  rw [value_append, hzeros, Nat.add_zero, List.length_replicate, ← hpow, ← Nat.mul_assoc, Nat.mul_div_cancel _ hpos]

/-- A longer run counts thousandths in its first three digits, and the others are less than one. -/
theorem value_append_div {f rest : List Char} (h : f.length = 3) (hrest : rest.all Char.isDigit = true) :
    value (f ++ rest) * 1000 / Nat.pow 10 (f ++ rest).length = value f := by
  have hlt := value_lt hrest
  have hpos : 0 < Nat.pow 10 rest.length := Nat.pow_pos (by decide)
  have hpow : Nat.pow 10 (f ++ rest).length = Nat.pow 10 rest.length * 1000 := by
    rw [List.length_append, h, Nat.add_comm]
    exact Nat.pow_add 10 rest.length 3
  rw [hpow, Nat.mul_div_mul_right _ _ (by decide), value_append, Nat.mul_comm, Nat.mul_add_div hpos,
    Nat.div_eq_of_lt hlt, Nat.add_zero]

/-- The first three digits after the point, with zeros where digits are missing, are the thousandths of the fraction. -/
theorem value_take_three {f : List Char} (hf : f.all Char.isDigit = true) :
    value ((f ++ ['0', '0', '0']).take 3) = value f * 1000 / Nat.pow 10 f.length := by
  rcases Nat.lt_or_ge f.length 3 with h | h
  · have htake : (f ++ ['0', '0', '0']).take 3 = f ++ List.replicate (3 - f.length) '0' := by
      rw [List.take_append, List.take_of_length_le (Nat.le_of_lt h)]
      show f ++ (List.replicate 3 '0').take (3 - f.length) = _
      rw [List.take_replicate, Nat.min_eq_left (Nat.sub_le _ _)]
    rw [htake, value_append_zeros (by omega)]
  · have hsplit := List.take_append_drop 3 f
    have hdrop : (f.drop 3).all Char.isDigit = true := by
      rw [← hsplit, List.all_append, Bool.and_eq_true] at hf
      exact hf.2
    have hlength : (f.take 3).length = 3 := by
      rw [List.length_take, Nat.min_eq_left h]
    rw [List.take_append_of_le_length h]
    have hvalue := value_append_div hlength hdrop
    rw [hsplit] at hvalue
    exact hvalue.symm

/-! ## The number of seconds -/

/-- The number that digits before and after a point denote. -/
def pointValue (whole fraction : List Char) : ℚ :=
  value whole + value fraction / 10 ^ fraction.length

theorem floor_pointValue (whole fraction : List Char) :
    ⌊1000 * pointValue whole fraction⌋₊ = value whole * 1000 + value fraction * 1000 / Nat.pow 10 fraction.length := by
  have hpos : 0 < 10 ^ fraction.length := Nat.pow_pos (by decide)
  have hratio : 1000 * pointValue whole fraction =
      ((value whole * 1000 * 10 ^ fraction.length + value fraction * 1000 : ℕ) : ℚ) / (10 ^ fraction.length : ℕ) := by
    rw [pointValue]
    push_cast
    field_simp
  rw [hratio, Nat.floor_div_eq_div, Nat.mul_comm (value whole * 1000), Nat.mul_add_div hpos]
  rfl

/-- A delay in decimal seconds is read in whole milliseconds, rounded down. -/
theorem DecimalText.millis_eq_floor {t : DecimalText} (h : t.WellFormed) :
    t.millis = ⌊1000 * pointValue t.whole (t.fraction.getD [])⌋₊ := by
  have hf : (t.fraction.getD []).all Char.isDigit = true := by
    cases hv : t.fraction with
    | none => rfl
    | some f => exact h.2.2 f hv
  rw [floor_pointValue, millis, fractionMillis, value_take_three hf]

/-! ## What is read -/

theorem wholeSeconds_eq_ok_iff {cs : List Char} {d : Span} :
    wholeSeconds cs = some (.ok d) ↔
      cs ≠ [] ∧ cs.all Char.isDigit = true ∧ d.nanos = value cs * 1000000000 := by
  constructor
  · intro h
    have hshape : Format.wholeSeconds.hasShape cs = true := by
      rw [Format.hasShape, Format.read, Option.isSome_map, h]
      rfl
    obtain ⟨hne, hd⟩ := Format.hasShape_wholeSeconds_iff.1 hshape
    rw [wholeSeconds_of_digits hne hd, Option.some.injEq, orFault_eq_ok_iff, Span.ofSeconds?_eq_some_iff] at h
    exact ⟨hne, hd, h⟩
  · rintro ⟨hne, hd, h⟩
    rw [wholeSeconds_of_digits hne hd, Option.some.injEq, orFault_eq_ok_iff, Span.ofSeconds?_eq_some_iff]
    exact h

theorem decimalSeconds_eq_ok_iff {cs : List Char} {d : Span} :
    decimalSeconds cs = some (.ok d) ↔
      ∃ t : DecimalText, t.WellFormed ∧ t.text = cs ∧
        ⌊1000 * pointValue t.whole (t.fraction.getD [])⌋₊ < 0x10000000000000000 ∧
        d.nanos = ⌊1000 * pointValue t.whole (t.fraction.getD [])⌋₊ * 1000000 := by
  rw [decimalSeconds, Option.map_eq_some_iff]
  constructor
  · rintro ⟨t, ht, hread⟩
    obtain ⟨hw, htext⟩ := DecimalText.scan_eq_some_iff.1 ht
    rw [orFault_eq_ok_iff, Option.map_eq_some_iff] at hread
    obtain ⟨m, hm, rfl⟩ := hread
    rw [Millis.ofNat?_eq_some_iff, DecimalText.millis_eq_floor hw] at hm
    exact ⟨t, hw, htext, hm ▸ m.count_lt, by rw [Span.nanos_span, hm]⟩
  · rintro ⟨t, hw, htext, hlt, hd⟩
    rw [← DecimalText.millis_eq_floor hw] at hlt hd
    refine ⟨t, DecimalText.scan_eq_some_iff.2 ⟨hw, htext⟩, ?_⟩
    rw [orFault_eq_ok_iff, Option.map_eq_some_iff]
    exact ⟨⟨t.millis, hlt⟩, Millis.ofNat?_eq_some_iff.2 rfl, Span.ext hd.symm⟩

/-- The texts that are delays. A text is a delay in whole seconds exactly when it consists of ASCII digits, one at least,
and the number of seconds fits in 64 bits; then it lasts so many seconds. A text is a delay in decimal seconds exactly when
it consists of ASCII digits, one at least, with perhaps a point and any number of digits behind, and the milliseconds in the
number that it denotes, rounded down, fit in 64 bits; then it lasts so many milliseconds. -/
theorem delays_read_exactly (text : String) (d : Span) :
    (wholeSeconds text.toList = some (.ok d) ↔
      (text.toList ≠ [] ∧ text.toList.all Char.isDigit = true) ∧ value text.toList ≤ 2 ^ 64 - 1 ∧
        d.nanos = value text.toList * 10 ^ 9) ∧
    (decimalSeconds text.toList = some (.ok d) ↔
      ∃ whole fraction : List Char,
        ((whole ≠ [] ∧ whole.all Char.isDigit = true) ∧ fraction.all Char.isDigit = true) ∧
        (text.toList = whole ∧ fraction = [] ∨ text.toList = whole ++ '.' :: fraction) ∧
        ⌊1000 * pointValue whole fraction⌋₊ ≤ 2 ^ 64 - 1 ∧ d.nanos = ⌊1000 * pointValue whole fraction⌋₊ * 10 ^ 6) := by
  constructor
  · rw [wholeSeconds_eq_ok_iff]
    have hd := d.nanos_lt
    constructor
    · rintro ⟨hne, hall, h⟩
      exact ⟨⟨hne, hall⟩, by omega, h⟩
    · rintro ⟨⟨hne, hall⟩, -, h⟩
      exact ⟨hne, hall, h⟩
  · rw [decimalSeconds_eq_ok_iff]
    constructor
    · rintro ⟨⟨whole, fraction⟩, ⟨hne, hall, hf⟩, htext, hlt, hd⟩
      cases fraction with
      | none =>
        have hwhole : text.toList = whole := htext.symm.trans (List.append_nil whole)
        exact ⟨whole, [], ⟨⟨hne, hall⟩, rfl⟩, .inl ⟨hwhole, rfl⟩, Nat.le_of_lt_succ hlt, hd⟩
      | some f => exact ⟨whole, f, ⟨⟨hne, hall⟩, hf f rfl⟩, .inr htext.symm, Nat.le_of_lt_succ hlt, hd⟩
    · rintro ⟨whole, fraction, ⟨⟨hne, hall⟩, hf⟩, ⟨htext, rfl⟩ | htext, hle, hd⟩
      · have hwhole : (DecimalText.mk whole none).text = text.toList := (List.append_nil whole).trans htext.symm
        exact ⟨⟨whole, none⟩, ⟨hne, hall, nofun⟩, hwhole, Nat.lt_succ_of_le hle, hd⟩
      · have hpoint : ∀ f ∈ some fraction, f.all Char.isDigit = true := by
          rintro _ ⟨⟩
          exact hf
        exact ⟨⟨whole, some fraction⟩, ⟨hne, hall, hpoint⟩, htext.symm, Nat.lt_succ_of_le hle, hd⟩

/-- The longest delay in decimal seconds, which its digits after the thousandths do not lengthen. -/
example : decimalSeconds "18446744073709551.6159".toList = some (.ok ⟨(2 ^ 64 - 1) * 10 ^ 6, by decide⟩) := by
  decide +kernel

end RetryPolicy.Header
