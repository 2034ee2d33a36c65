import Mathlib.Algebra.Group.Nat.Defs
import Mathlib.Data.Prod.Lex
import Mathlib.Order.GaloisConnection.Basic
import RetryPolicy.Proofs.RoundedLimit

/-!
# Spans in whole milliseconds

A span consists of whole seconds and the nanoseconds after them. Spans are compared by the seconds first, and milliseconds are
made from the two parts: in 128 bits, because a thousand times the seconds need not fit in 64, and the largest number of 64 bits
takes the place of one that does not. None of this shows in the results. The order is that of all the nanoseconds together
(`le_iff_parts`), and the milliseconds are those in all of them (`millis_eq_ofNat?`).

So milliseconds and spans form a Galois connection (`galoisConnection_span_millis`), and the milliseconds of a span are the
largest number of them that is no longer than the span. A rule or a longest wait that is given as a span keeps just these
(`rules_keep_largest_millis`).
-/

namespace RetryPolicy

instance : PartialOrder Millis where
  le_refl m := Nat.le_refl m.count
  le_trans _ _ _ hab hbc := Nat.le_trans hab hbc
  lt_iff_le_not_ge _ _ := Nat.lt_iff_le_and_not_ge
  le_antisymm _ _ hab hba := Millis.ext (Nat.le_antisymm hab hba)

instance : PartialOrder Span where
  le_refl d := Nat.le_refl d.nanos
  le_trans _ _ _ hab hbc := Nat.le_trans hab hbc
  lt_iff_le_not_ge _ _ := Nat.lt_iff_le_and_not_ge
  le_antisymm _ _ hab hba := Span.ext (Nat.le_antisymm hab hba)

namespace Span

/-! ## Seconds and nanoseconds -/

theorem seconds_lt (d : Span) : d.seconds < 2 ^ 64 := by
  have := d.nanos_lt
  unfold seconds
  omega

theorem subsecond_lt (d : Span) : d.subsecond < 10 ^ 9 :=
  Nat.mod_lt _ (by decide)

theorem nanos_eq_parts (d : Span) : d.nanos = d.seconds * 10 ^ 9 + d.subsecond :=
  (Nat.div_add_mod' d.nanos (10 ^ 9)).symm

/-- Seconds and nanoseconds in their ranges are those of one span, which is made from them. -/
theorem ofParts?_eq_some_iff {seconds nanos : ℕ} {d : Span} :
    ofParts? seconds nanos = some d ↔ d.seconds = seconds ∧ d.subsecond = nanos := by
  unfold ofParts?
  constructor
  · intro h
    split at h
    · rename_i hrange
      obtain rfl := Option.some.inj h
      simp only [Span.seconds, Span.subsecond]
      omega
    · cases h
  · rintro ⟨rfl, rfl⟩
    rw [dif_pos ⟨d.seconds_lt, d.subsecond_lt⟩]
    exact congrArg some (ext d.nanos_eq_parts.symm)

/-- Of two spans, the one with fewer whole seconds is shorter, and at the same number of seconds the one with fewer
nanoseconds. -/
theorem le_iff_parts (d e : Span) : d ≤ e ↔ toLex (d.seconds, d.subsecond) ≤ toLex (e.seconds, e.subsecond) := by
  have hd := d.subsecond_lt
  have he := e.subsecond_lt
  -- the nanoseconds of one span never make up for a second that it has less
  rw [le_iff, d.nanos_eq_parts, e.nanos_eq_parts, Prod.Lex.toLex_le_toLex]
  omega

/-! ## Milliseconds -/

/-- The milliseconds in a span are a thousand for each second and those in the nanoseconds. -/
theorem nanos_div_eq_parts (d : Span) : d.nanos / 10 ^ 6 = d.seconds * 1000 + d.subsecond / 10 ^ 6 := by
  rw [d.nanos_eq_parts]
  omega

/-- The milliseconds of a span are those in its parts, if there is room for that number, or else the largest one. -/
theorem millis_eq_ofNat? (d : Span) :
    d.millis = (Millis.ofNat? (d.seconds * 1000 + d.subsecond / 10 ^ 6)).getD Millis.largest := by
  rw [← nanos_div_eq_parts]
  cases hm : Millis.ofNat? (d.nanos / 10 ^ 6) with
  | none =>
    rw [Millis.ofNat?_eq_none_iff] at hm
    apply Millis.ext
    rw [Option.getD_none, count_millis, Millis.count_largest]
    omega
  | some m =>
    rw [Millis.ofNat?_eq_some_iff] at hm
    have hlt := m.count_lt
    apply Millis.ext
    rw [Option.getD_some, count_millis]
    omega

/-- A number of milliseconds is a span with a thousandth of it, rounded down, as whole seconds and the rest as nanoseconds. -/
theorem ofParts?_span (m : Millis) : ofParts? (m.count / 1000) (m.count % 1000 * 10 ^ 6) = some m.span := by
  rw [ofParts?_eq_some_iff, Span.seconds, Span.subsecond, nanos_span]
  omega

/-- Milliseconds are within those of a span exactly when they are within the span. -/
theorem galoisConnection_span_millis : GaloisConnection Millis.span millis :=
  fun _ _ => le_millis_iff.symm

end Span

/-! ## What is given as a span -/

/-- After a response, a rule that was given a span as its shortest wait waits for the milliseconds of the span, or for those that
the response asks for if they are more. -/
theorem WaitRule.waitAfter_atLeast {ε : Type} (d : Span) (now : ClockTime) (attempt : ℕ) (r : Response) :
    (atLeast d now : WaitRule ε).waitAfter attempt r =
      some ((((HeaderReader.ofPreset .extended now).waitOf r).value.map Span.millis).elim d.millis (max d.millis)) := by
  have hwait := waitAfter_honor (ofSpan d : WaitRule ε) (HeaderReader.ofPreset .extended now) attempt r
  have hbase : (ofSpan d : WaitRule ε).waitAfter attempt r = some d.millis := rfl
  rw [atLeast, honoring, hwait, hbase]
  cases ((HeaderReader.ofPreset .extended now).waitOf r).value with
  | none => rfl
  | some asked => rfl

/-- A span has as many milliseconds as there are whole millions in its nanoseconds, or `2^64 - 1` if there are more; they are made
from its parts with a number of 128 bits. Spans have the order of their parts. Milliseconds made into a span and back are
unchanged, and they are within those of a span exactly when they are within the span, so that a longer span never has fewer. Hence
the milliseconds of a span are the largest number of them within it, and this number is what stays of the span: a fixed wait is
that long every time; a shortest wait is that long, or as long as a response asks for if that is longer; and a longest wait
permits the waits within it. -/
theorem rules_keep_largest_millis {ε : Type} (d : Span) :
    (d.millis.count = min (d.nanos / 10 ^ 6) (2 ^ 64 - 1) ∧ d.nanos = d.seconds * 10 ^ 9 + d.subsecond ∧
      d.millis = (Millis.ofNat? (d.seconds * 1000 + d.subsecond / 10 ^ 6)).getD Millis.largest ∧
      d.seconds * 1000 + d.subsecond / 10 ^ 6 < 2 ^ 128) ∧
    (∀ m : Millis, Span.ofParts? (m.count / 1000) (m.count % 1000 * 10 ^ 6) = some m.span ∧ m.span.millis = m ∧
      (m ≤ d.millis ↔ m.span ≤ d)) ∧
    (∀ e : Span, (d ≤ e ↔ toLex (d.seconds, d.subsecond) ≤ toLex (e.seconds, e.subsecond)) ∧
      (d ≤ e → d.millis ≤ e.millis)) ∧
    ∃ g, IsGreatest {m : Millis | m.span ≤ d} g ∧
      (∀ attempt (a : Attempt Response ε), ((WaitRule.ofSpan d).pause attempt a).millis = some g) ∧
      (∀ now attempt, (∀ e : ε, ((WaitRule.atLeast d now).pause attempt (.failed e)).millis = some g) ∧
        ∀ r, (WaitRule.atLeast d now : WaitRule ε).waitAfter attempt r =
          some ((((HeaderReader.ofPreset .extended now).waitOf r).value.map Span.millis).elim g (max g))) ∧
      ∀ (s : Settings) now r, (s.waitingAtMost d).maxWait = some g ∧
        ((((s.waitingAtMost d).limit now).permits r).value = true ↔
          ∀ asked ∈ ((s.reader now).waitOf r).value, asked ≤ g.span) := by
  have gc := Span.galoisConnection_span_millis
  refine ⟨⟨d.count_millis, d.nanos_eq_parts, d.millis_eq_ofNat?, ?_⟩, ?_, ?_, d.millis, gc.isGreatest_u, ?_, ?_, ?_⟩
  · have hs := d.seconds_lt
    have hn := d.subsecond_lt
    omega
  · intro m
    exact ⟨Span.ofParts?_span m, Span.millis_span m, Span.le_millis_iff⟩
  · intro e
    exact ⟨d.le_iff_parts e, fun h => gc.monotone_u h⟩
  · intro attempt a
    rfl
  · intro now attempt
    exact ⟨fun e => rfl, WaitRule.waitAfter_atLeast d now attempt⟩
  · intro s now r
    exact ⟨rfl, s.value_permits_waitingAtMost_iff d now r⟩

/-- A span of one millisecond more than fit has the largest number of them, no more than the longest span has. -/
theorem millis_stand_at_largest :
    let d : Span := ⟨0x10000000000000000 * 1000000, by decide⟩
    d ≤ Span.longest ∧ d.millis = Millis.largest ∧ d.millis ≤ Span.longest.millis := by
  intro d
  have hle : d ≤ Span.longest := by decide
  obtain ⟨⟨hcount, -⟩, -, hlonger, -⟩ := rules_keep_largest_millis (ε := Empty) d
  exact ⟨hle, Millis.ext (hcount.trans (by decide)), (hlonger _).2 hle⟩

end RetryPolicy
