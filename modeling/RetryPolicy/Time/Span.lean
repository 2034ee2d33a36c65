/-!
# Lengths of time

A `Span` counts nanoseconds, up to `2^64 - 1` seconds and `999999999` nanoseconds; `Millis` counts milliseconds in 64
bits. A count that does not fit stands at the largest one. `Span.millis` rounds down and `Millis.span` is exact, so
that the two form a Galois pair up to that largest count (`millis_span`, `le_millis_iff`).
-/

namespace RetryPolicy

/-- Whole milliseconds, fewer than `2^64`. -/
structure Millis where
  count : Nat
  count_lt : count < 0x10000000000000000
  deriving DecidableEq

/-- A length of time in nanoseconds; its whole seconds are fewer than `2^64`. -/
structure Span where
  nanos : Nat
  nanos_lt : nanos < 0x10000000000000000 * 1000000000
  deriving DecidableEq

namespace Millis

/-- A number of milliseconds, if it is less than `2^64`. -/
def ofNat? (n : Nat) : Option Millis :=
  if h : n < 0x10000000000000000 then some ⟨n, h⟩ else none

/-- The largest number of milliseconds. -/
def largest : Millis := ⟨0x10000000000000000 - 1, by decide⟩

/-- A number of milliseconds, or the largest one below `2^64` when there are more. -/
def clamp (n : Nat) : Millis :=
  ⟨min n (0x10000000000000000 - 1), by omega⟩

instance : LE Millis := ⟨fun a b => a.count ≤ b.count⟩

instance : LT Millis := ⟨fun a b => a.count < b.count⟩

instance : Max Millis := ⟨fun a b => if a.count ≤ b.count then b else a⟩

instance (a b : Millis) : Decidable (a ≤ b) := inferInstanceAs (Decidable (a.count ≤ b.count))

instance (a b : Millis) : Decidable (a < b) := inferInstanceAs (Decidable (a.count < b.count))

theorem le_iff (a b : Millis) : a ≤ b ↔ a.count ≤ b.count := Iff.rfl

theorem lt_iff (a b : Millis) : a < b ↔ a.count < b.count := Iff.rfl

theorem ext {a b : Millis} (h : a.count = b.count) : a = b := by
  cases a
  cases b
  simp_all

theorem ofNat?_eq_some_iff {n : Nat} {m : Millis} : ofNat? n = some m ↔ m.count = n := by
  unfold ofNat?
  constructor
  · intro h
    split at h
    · cases h
      rfl
    · cases h
  · rintro rfl
    rw [dif_pos m.count_lt]

theorem ofNat?_eq_none_iff {n : Nat} : ofNat? n = none ↔ 0x10000000000000000 ≤ n := by
  unfold ofNat?
  split
  · simp
    omega
  · simp
    omega

@[simp] theorem count_largest : largest.count = 0x10000000000000000 - 1 := rfl

@[simp] theorem count_clamp (n : Nat) : (clamp n).count = min n (0x10000000000000000 - 1) := rfl

@[simp] theorem count_max (a b : Millis) : (max a b).count = max a.count b.count := by
  show (if a.count ≤ b.count then b else a).count = _
  split <;> omega

instance : Std.IsLinearOrder Millis where
  le_refl a := Nat.le_refl a.count
  le_trans _ _ _ hab hbc := Nat.le_trans hab hbc
  le_antisymm _ _ hab hba := ext (Nat.le_antisymm hab hba)
  le_total a b := Nat.le_total a.count b.count

instance : Std.LawfulOrderMax Millis where
  max_le_iff a b c := by
    rw [le_iff, le_iff, le_iff, count_max]
    exact Nat.max_le
  max_eq_or a b := by
    rcases Nat.le_total a.count b.count with h | h
    · exact .inr (ext (by rw [count_max, Nat.max_eq_right h]))
    · exact .inl (ext (by rw [count_max, Nat.max_eq_left h]))

/-- This many milliseconds as a length of time. -/
def span (m : Millis) : Span :=
  ⟨m.count * 1000000, by have := m.count_lt; omega⟩

end Millis

namespace Span

/-- No time at all. -/
def zero : Span := ⟨0, by decide⟩

/-- The longest span: one nanosecond short of `2^64` seconds. -/
def longest : Span := ⟨0x10000000000000000 * 1000000000 - 1, by decide⟩

/-- A number of nanoseconds, or the longest span when there are more. -/
def clamp (n : Nat) : Span :=
  ⟨min n (0x10000000000000000 * 1000000000 - 1), by omega⟩

/-- A number of seconds, if it is less than `2^64`. -/
def ofSeconds? (n : Nat) : Option Span :=
  if h : n < 0x10000000000000000 then some ⟨n * 1000000000, by omega⟩ else none

/-- Whole seconds and the nanoseconds after them, if each is in its range. -/
def ofParts? (seconds nanos : Nat) : Option Span :=
  if h : seconds < 0x10000000000000000 ∧ nanos < 1000000000 then some ⟨seconds * 1000000000 + nanos, by omega⟩ else none

instance : LE Span := ⟨fun a b => a.nanos ≤ b.nanos⟩

instance : LT Span := ⟨fun a b => a.nanos < b.nanos⟩

instance : Min Span := ⟨fun a b => if a.nanos ≤ b.nanos then a else b⟩

instance (a b : Span) : Decidable (a ≤ b) := inferInstanceAs (Decidable (a.nanos ≤ b.nanos))

instance (a b : Span) : Decidable (a < b) := inferInstanceAs (Decidable (a.nanos < b.nanos))

/-- The whole seconds of a span. -/
def seconds (d : Span) : Nat := d.nanos / 1000000000

/-- The nanoseconds after the whole seconds of a span. -/
def subsecond (d : Span) : Nat := d.nanos % 1000000000

/-- The whole milliseconds of a span, or the largest count when there are more. -/
def millis (d : Span) : Millis :=
  Millis.clamp (d.nanos / 1000000)

/-- The span taken `k` times, or the longest span when that is more. -/
def times (d : Span) (k : Nat) : Span :=
  clamp (d.nanos * k)

theorem le_iff (a b : Span) : a ≤ b ↔ a.nanos ≤ b.nanos := Iff.rfl

theorem lt_iff (a b : Span) : a < b ↔ a.nanos < b.nanos := Iff.rfl

theorem ext {a b : Span} (h : a.nanos = b.nanos) : a = b := by
  cases a
  cases b
  simp_all

theorem ofSeconds?_eq_some_iff {n : Nat} {d : Span} : ofSeconds? n = some d ↔ d.nanos = n * 1000000000 := by
  unfold ofSeconds?
  constructor
  · intro h
    split at h
    · cases h
      rfl
    · cases h
  · intro h
    have := d.nanos_lt
    rw [dif_pos (by omega)]
    exact congrArg some (ext h.symm)

theorem ofSeconds?_eq_none_iff {n : Nat} : ofSeconds? n = none ↔ 0x10000000000000000 ≤ n := by
  unfold ofSeconds?
  split
  · simp
    omega
  · simp
    omega

@[simp] theorem nanos_clamp (n : Nat) : (clamp n).nanos = min n (0x10000000000000000 * 1000000000 - 1) := rfl

@[simp] theorem nanos_min (a b : Span) : (min a b).nanos = min a.nanos b.nanos := by
  show (if a.nanos ≤ b.nanos then a else b).nanos = _
  split <;> omega

@[simp] theorem nanos_times (d : Span) (k : Nat) :
    (d.times k).nanos = min (d.nanos * k) (0x10000000000000000 * 1000000000 - 1) := rfl

@[simp] theorem count_millis (d : Span) : d.millis.count = min (d.nanos / 1000000) (0x10000000000000000 - 1) := rfl

@[simp] theorem nanos_span (m : Millis) : m.span.nanos = m.count * 1000000 := rfl

/-- Milliseconds written as a span and read back are unchanged. -/
theorem millis_span (m : Millis) : m.span.millis = m := by
  apply Millis.ext
  have := m.count_lt
  simp
  omega

/-- A number of milliseconds is within those of a span exactly when it is no longer than the span. -/
theorem le_millis_iff {m : Millis} {d : Span} : m ≤ d.millis ↔ m.span ≤ d := by
  have := m.count_lt
  rw [Millis.le_iff, Span.le_iff, count_millis, nanos_span]
  omega

/-- The whole milliseconds of a span are no longer than it. -/
theorem span_millis_le (d : Span) : d.millis.span ≤ d :=
  le_millis_iff.1 (Nat.le_refl _)

/-- The whole milliseconds of a span fall short of it by less than one, unless they do not fit. -/
theorem nanos_lt_span_millis {d : Span} (h : d ≤ Millis.largest.span) : d.nanos < d.millis.span.nanos + 1000000 := by
  rw [le_iff, nanos_span, Millis.count_largest] at h
  rw [nanos_span, count_millis]
  omega

/-- Nothing is lost in milliseconds exactly when the span is a whole number of them. -/
theorem le_span_millis_iff {d : Span} (h : d ≤ Millis.largest.span) : d ≤ d.millis.span ↔ d.nanos % 1000000 = 0 := by
  rw [le_iff, nanos_span, Millis.count_largest] at h
  rw [le_iff, nanos_span, count_millis]
  omega

theorem millis_le_millis {a b : Span} (h : a ≤ b) : a.millis ≤ b.millis := by
  rw [Span.le_iff] at h
  rw [Millis.le_iff, count_millis, count_millis]
  omega

end Span

end RetryPolicy
