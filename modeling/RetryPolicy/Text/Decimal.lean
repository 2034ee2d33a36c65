/-!
# Decimal numerals

Reading: `value` is the number that a run of ASCII digits denotes, whatever its length and leading zeros, and it
undoes `digits` and `padded` (`value_digits`, `value_padded`). Writing: `digits` has no leading zero, and digits that have
none are written again for their number (`digits_value`); `padded` adds zeros up to a width, which it fills
(`length_padded`), and a minus sign counts towards the width of `signedPadded`.
-/

namespace RetryPolicy.Text

/-- The number that a run of ASCII digits denotes. -/
def value (cs : List Char) : Nat :=
  Nat.ofDigitChars 10 cs 0

/-- The decimal digits of a number, without leading zeros. -/
def digits (n : Nat) : List Char :=
  Nat.toDigits 10 n

/-- The decimal digits of a number, with leading zeros up to `width`. -/
def padded (width n : Nat) : List Char :=
  List.replicate (width - (digits n).length) '0' ++ digits n

/-- An integer padded with zeros between its sign and its digits; the sign counts towards `width`. -/
def signedPadded (width : Nat) : Int → List Char
  | .ofNat n => padded width n
  | .negSucc n => '-' :: padded (width - 1) (n + 1)

@[simp] theorem value_nil : value [] = 0 := rfl

/-- Digits in front count for as many tens as there are digits behind them. -/
theorem value_append (v w : List Char) : value (v ++ w) = value v * Nat.pow 10 w.length + value w := by
  rw [value, Nat.ofDigitChars_append, Nat.ofDigitChars_eq_ofDigitChars_zero, Nat.mul_comm]
  rfl

/-- One digit stands for a number below ten, and it is the digit of that number. -/
theorem value_digit {c : Char} (h : c.isDigit = true) : value [c] < 10 ∧ Nat.digitChar (value [c]) = c := by
  have all : ∀ n < 10, Nat.digitChar n = Char.ofNat (n + 48) := by decide
  rw [Char.isDigit, Bool.and_eq_true, decide_eq_true_eq, decide_eq_true_eq] at h
  have hge : 48 ≤ c.toNat := UInt32.le_iff_toNat_le.1 h.1
  have hle : c.toNat ≤ 57 := UInt32.le_iff_toNat_le.1 h.2
  have hvalue : value [c] = c.toNat - 48 := by
    rw [value, Nat.ofDigitChars_cons, Nat.ofDigitChars_nil]
    show 10 * 0 + (c.toNat - 48) = c.toNat - 48
    omega
  rw [hvalue]
  refine ⟨by omega, ?_⟩
  rw [all _ (by omega), Nat.sub_add_cancel hge, Char.ofNat_toNat]

/-- A number has a power of ten for each of its digits. -/
theorem value_lt {cs : List Char} (h : cs.all Char.isDigit = true) : value cs < Nat.pow 10 cs.length := by
  induction cs with
  | nil => decide
  | cons c cs ih =>
    rw [List.all_cons, Bool.and_eq_true] at h
    have hrest := ih h.2
    have hdigit : value [c] ≤ 9 := Nat.le_of_lt_succ (value_digit h.1).1
    have hsplit := value_append [c] cs
    calc value ([c] ++ cs)
      _ = value [c] * Nat.pow 10 cs.length + value cs := hsplit
      _ < 9 * Nat.pow 10 cs.length + Nat.pow 10 cs.length :=
        Nat.add_lt_add_of_le_of_lt (Nat.mul_le_mul_right _ hdigit) hrest
      _ = Nat.pow 10 (cs.length + 1) := by
        rw [show Nat.pow 10 (cs.length + 1) = Nat.pow 10 cs.length * 10 from rfl]
        omega

@[simp] theorem value_digits (n : Nat) : value (digits n) = n :=
  Nat.ofDigitChars_toDigits (by decide) (by decide)

theorem all_isDigit_digits (n : Nat) : (digits n).all Char.isDigit = true :=
  List.all_eq_true.2 fun _ hc => Nat.isDigit_of_mem_toDigits (by decide) (by decide) hc

theorem length_digits_pos (n : Nat) : 0 < (digits n).length :=
  Nat.length_toDigits_pos

/-- A number other than zero has no leading zero. -/
theorem head?_digits_ne {n : Nat} (h : 0 < n) : (digits n).head? ≠ some '0' := by
  induction n using Nat.strongRecOn with
  | ind n ih =>
    by_cases hn : n < 10
    · have digit : ∀ m < 10, 0 < m → some (Nat.digitChar m) ≠ some '0' := by decide
      rw [digits, Nat.toDigits_of_lt_base hn]
      exact digit n hn h
    · have hfront := ih (n / 10) (by omega) (by omega)
      have hpos := length_digits_pos (n / 10)
      rw [digits, Nat.toDigits_of_base_le (by decide) (by omega)]
      rw [digits] at hfront hpos
      cases hd : Nat.toDigits 10 (n / 10) with
      | nil =>
        rw [hd] at hpos
        exact absurd hpos (by decide)
      | cons c cs =>
        rw [hd] at hfront
        exact hfront

/-- Digits without a leading zero are those of the number that they denote. -/
theorem digits_value {cs : List Char} (hne : cs ≠ []) (h : cs.all Char.isDigit = true) (hlead : cs.head? ≠ some '0') :
    digits (value cs) = cs := by
  induction hn : cs.length generalizing cs with
  | zero => exact absurd (List.length_eq_zero_iff.1 hn) hne
  | succ n ih =>
    obtain ⟨front, c, rfl⟩ := (List.eq_nil_or_concat cs).resolve_left hne
    rw [List.concat_eq_append] at *
    rw [List.all_append, Bool.and_eq_true] at h
    obtain ⟨hlt, hc⟩ := value_digit (Bool.and_eq_true_iff.1 h.2).1
    have hvalue : value (front ++ [c]) = value front * 10 + value [c] := value_append front [c]
    cases front with
    | nil => rw [List.nil_append, digits, Nat.toDigits_of_lt_base hlt, hc]
    | cons d front =>
      have hfront := ih (List.cons_ne_nil d front) h.1 hlead (by simpa using hn)
      have hpos : 0 < value (d :: front) := by
        rw [Nat.pos_iff_ne_zero]
        intro hzero
        rw [hzero] at hfront
        rw [← hfront] at hlead
        exact hlead rfl
      have hdiv : (value (d :: front) * 10 + value [c]) / 10 = value (d :: front) := by omega
      have hmod : (value (d :: front) * 10 + value [c]) % 10 = value [c] := by omega
      rw [hvalue, digits, Nat.toDigits_of_base_le (by decide) (by omega), hdiv, hmod, hc]
      rw [digits] at hfront
      rw [hfront]

theorem length_digits_le {width n : Nat} (hw : 0 < width) (h : n < Nat.pow 10 width) : (digits n).length ≤ width :=
  (Nat.length_toDigits_le_iff (by decide) hw).2 h

/-- A number that is not too long fills its width. -/
theorem length_padded {width n : Nat} (hw : 0 < width) (h : n < Nat.pow 10 width) : (padded width n).length = width := by
  have := length_digits_le hw h
  rw [padded, List.length_append, List.length_replicate]
  omega

theorem all_isDigit_padded (width n : Nat) : (padded width n).all Char.isDigit = true := by
  have zeros : (List.replicate (width - (digits n).length) '0').all Char.isDigit = true := by
    rw [List.all_replicate]
    split
    · rfl
    · rfl
  rw [padded, List.all_append, zeros, all_isDigit_digits]
  rfl

@[simp] theorem value_padded (width n : Nat) : value (padded width n) = n := by
  rw [value, padded, Nat.ofDigitChars_append, Nat.ofDigitChars_replicate_zero, Nat.mul_zero]
  exact value_digits n

end RetryPolicy.Text
