import RetryPolicy.Proofs.HonoredWait

/-!
# Layers around a rule

Layers that honor headers can be stacked around any rule, each with formats and a clock of its own. The rule at the bottom
runs once, with the attempt that the outermost layer was asked about. After a failure the layers change nothing; after a
response they wait for the longest of the wait of that rule and the waits that their readers find
(`waitAfter_layered`). So neither the order of the layers nor a layer that stands there twice makes a difference.
-/

namespace RetryPolicy

namespace Pause

variable {ε : Type}

/-- The longer of two waits is the maximum of those that are there. -/
theorem longer_eq_max (base : Option Millis) (asked : Millis) :
    longer base asked = base.elim asked (max asked) := by
  cases base with
  | none => rfl
  | some b =>
    apply Millis.ext
    rw [longer, Option.elim_some, Millis.count_max, Millis.count_max, Nat.max_comm]

@[simp] theorem calls_honoring (inner : Pause ε) (attempt : Nat) (asked : Logged (Option Span)) :
    (inner.honoring attempt asked).calls = inner.calls := by
  rcases asked with ⟨_ | d, events⟩
  · rfl
  · rfl

/-- The wait of a layer depends on what happened inside it only through the wait inside. -/
theorem millis_honoring_congr {inner other : Pause ε} (h : inner.millis = other.millis) (attempt : Nat)
    (asked : Logged (Option Span)) : (inner.honoring attempt asked).millis = (other.honoring attempt asked).millis := by
  rcases asked with ⟨_ | d, events⟩
  · exact h
  · simp only [honoring, h]

end Pause

namespace WaitRule

variable {ε : Type}

/-- The rule inside layers with these readers, of which the first is that of the outermost layer. -/
def layered (leaf : WaitRule ε) (readers : List HeaderReader) : WaitRule ε :=
  readers.foldr (fun reader inner => honor inner reader) leaf

/-- The rule as a function of the caller's own, so that a pause shows the calls of it. -/
def observed (leaf : WaitRule ε) : WaitRule ε :=
  custom fun attempt a => (leaf.pause attempt a).millis

/-- The waits among which layers choose after a response: what each reader finds, and the wait of the rule inside unless it
abstains. -/
def waits (leaf : WaitRule ε) (readers : List HeaderReader) (attempt : Nat) (r : Response) : List Millis :=
  readers.filterMap (fun reader => (reader.waitOf r).value.map Span.millis) ++ (leaf.waitAfter attempt r).toList

@[simp] theorem observed_custom (f : Nat → Attempt Response ε → Option Millis) : (custom f).observed = custom f := rfl

@[simp] theorem layered_nil (leaf : WaitRule ε) : leaf.layered [] = leaf := rfl

@[simp] theorem layered_cons (leaf : WaitRule ε) (reader : HeaderReader) (readers : List HeaderReader) :
    leaf.layered (reader :: readers) = honor (leaf.layered readers) reader := rfl

/-- One more layer adds the wait that its reader finds, if it finds one. -/
theorem waits_cons (leaf : WaitRule ε) (reader : HeaderReader) (readers : List HeaderReader) (attempt : Nat)
    (r : Response) :
    leaf.waits (reader :: readers) attempt r =
      ((reader.waitOf r).value.map Span.millis).toList ++ leaf.waits readers attempt r := by
  rw [waits, List.filterMap_cons]
  cases (reader.waitOf r).value with
  | none => rfl
  | some d => rfl

/-! ## One layer -/

@[simp] theorem pause_honor_failed (base : WaitRule ε) (reader : HeaderReader) (attempt : Nat) (e : ε) :
    (honor base reader).pause attempt (.failed e) = base.pause attempt (.failed e) := rfl

/-- A layer calls the rule inside it and makes no call of its own. -/
theorem calls_pause_honor (base : WaitRule ε) (reader : HeaderReader) (attempt : Nat) (a : Attempt Response ε) :
    ((honor base reader).pause attempt a).calls = (base.pause attempt a).calls := by
  cases a with
  | failed e => rfl
  | answered r => exact Pause.calls_honoring _ _ _

/-- Rules with the same wait have the same wait inside a layer. -/
theorem millis_pause_honor_congr {base other : WaitRule ε} {attempt : Nat} {a : Attempt Response ε}
    (h : (base.pause attempt a).millis = (other.pause attempt a).millis) (reader : HeaderReader) :
    ((honor base reader).pause attempt a).millis = ((honor other reader).pause attempt a).millis := by
  cases a with
  | failed e => exact h
  | answered r => exact Pause.millis_honoring_congr h _ _

/-! ## All the layers -/

/-- After a failure the layers change nothing. -/
theorem pause_layered_failed (leaf : WaitRule ε) (readers : List HeaderReader) (attempt : Nat) (e : ε) :
    (leaf.layered readers).pause attempt (.failed e) = leaf.pause attempt (.failed e) := by
  induction readers with
  | nil => rfl
  | cons reader readers ih =>
    rw [layered_cons, pause_honor_failed]
    exact ih

/-- The calls are those of the rule inside the layers, run once. -/
theorem calls_pause_layered (leaf : WaitRule ε) (readers : List HeaderReader) (attempt : Nat) (a : Attempt Response ε) :
    ((leaf.layered readers).pause attempt a).calls = (leaf.pause attempt a).calls := by
  induction readers with
  | nil => rfl
  | cons reader readers ih =>
    rw [layered_cons, calls_pause_honor]
    exact ih

/-- A rule that is observed has the same waits, with and without layers. -/
theorem millis_pause_layered_observed (leaf : WaitRule ε) (readers : List HeaderReader) (attempt : Nat)
    (a : Attempt Response ε) :
    ((leaf.observed.layered readers).pause attempt a).millis = ((leaf.layered readers).pause attempt a).millis := by
  induction readers with
  | nil => rfl
  | cons reader readers ih => exact millis_pause_honor_congr ih reader

/-- After a response the layers wait for the longest of the waits, and have none when there is none. -/
theorem waitAfter_layered (leaf : WaitRule ε) (readers : List HeaderReader) (attempt : Nat) (r : Response) :
    (leaf.layered readers).waitAfter attempt r = (leaf.waits readers attempt r).max? := by
  induction readers with
  | nil =>
    show leaf.waitAfter attempt r = (leaf.waitAfter attempt r).toList.max?
    cases leaf.waitAfter attempt r with
    | none => rfl
    | some w => rfl
  | cons reader readers ih =>
    rw [layered_cons, waitAfter_honor, ih, waits_cons]
    cases (reader.waitOf r).value with
    | none => rfl
    | some d =>
      calc some (Pause.longer (leaf.waits readers attempt r).max? d.millis)
        _ = some ((leaf.waits readers attempt r).max?.elim d.millis (max d.millis)) := by rw [Pause.longer_eq_max]
        _ = (d.millis :: leaf.waits readers attempt r).max? := List.max?_cons.symm

/-- There is no wait exactly where the rule inside abstains and no reader finds one. -/
theorem waits_eq_nil_iff {leaf : WaitRule ε} {readers : List HeaderReader} {attempt : Nat} {r : Response} :
    leaf.waits readers attempt r = [] ↔
      leaf.waitAfter attempt r = none ∧ ∀ reader ∈ readers, (reader.waitOf r).value = none := by
  rw [waits, List.append_eq_nil_iff, and_comm]
  simp

/-- Which waits there are depends on which readers there are. -/
theorem mem_waits_of_subset {leaf : WaitRule ε} {readers others : List HeaderReader}
    (hs : ∀ reader ∈ readers, reader ∈ others) {attempt : Nat} {r : Response} {w : Millis}
    (hw : w ∈ leaf.waits readers attempt r) : w ∈ leaf.waits others attempt r := by
  rw [waits, List.mem_append] at hw ⊢
  rcases hw with hw | hw
  · obtain ⟨reader, hmem, hd⟩ := List.mem_filterMap.1 hw
    exact .inl (List.mem_filterMap.2 ⟨reader, hs reader hmem, hd⟩)
  · exact .inr hw

/-- Layers with the same readers have the same wait, in whatever order and however often a reader stands among them. -/
theorem millis_pause_layered_congr {readers others : List HeaderReader} (hs : ∀ reader, reader ∈ readers ↔ reader ∈ others)
    (leaf : WaitRule ε) (attempt : Nat) (a : Attempt Response ε) :
    ((leaf.layered readers).pause attempt a).millis = ((leaf.layered others).pause attempt a).millis := by
  cases a with
  | failed e => rw [pause_layered_failed, pause_layered_failed]
  | answered r =>
    show (leaf.layered readers).waitAfter attempt r = (leaf.layered others).waitAfter attempt r
    have hmem : ∀ w, w ∈ leaf.waits readers attempt r ↔ w ∈ leaf.waits others attempt r := by
      intro w
      exact ⟨mem_waits_of_subset fun reader => (hs reader).1, mem_waits_of_subset fun reader => (hs reader).2⟩
    apply Option.ext
    intro w
    rw [waitAfter_layered, waitAfter_layered, List.max?_eq_some_iff, List.max?_eq_some_iff]
    simp only [hmem]

/-- Layers around a rule compute a maximum. The rule inside runs once, with the same attempt, whatever kind of rule it is;
after a failure the wait is its own; after a response it is the longest of its own, unless it abstains, and of those that
the readers of the layers find, so that there is none exactly where it abstains and no reader finds one; and which readers
there are decides the wait, not their order and not how often one stands among them. -/
theorem layers_wait_for_longest (leaf : WaitRule ε) (readers : List HeaderReader) (attempt : Nat) :
    (∀ a, ((leaf.layered readers).pause attempt a).calls = (leaf.pause attempt a).calls ∧
      ((leaf.observed.layered readers).pause attempt a).calls = [(attempt, a)] ∧
      ((leaf.observed.layered readers).pause attempt a).millis = ((leaf.layered readers).pause attempt a).millis) ∧
    (∀ e, ((leaf.layered readers).pause attempt (.failed e)).millis = (leaf.pause attempt (.failed e)).millis) ∧
    (∀ r w, (leaf.layered readers).waitAfter attempt r = some w ↔
      w ∈ leaf.waits readers attempt r ∧ ∀ v ∈ leaf.waits readers attempt r, v ≤ w) ∧
    (∀ r, (leaf.layered readers).waitAfter attempt r = none ↔
      leaf.waitAfter attempt r = none ∧ ∀ reader ∈ readers, (reader.waitOf r).value = none) ∧
    (∀ others : List HeaderReader, (∀ reader, reader ∈ readers ↔ reader ∈ others) →
      ∀ a, ((leaf.layered readers).pause attempt a).millis = ((leaf.layered others).pause attempt a).millis) := by
  refine ⟨?_, ?_, ?_, ?_, ?_⟩
  · intro a
    exact ⟨calls_pause_layered leaf readers attempt a, calls_pause_layered leaf.observed readers attempt a,
      millis_pause_layered_observed leaf readers attempt a⟩
  · intro e
    rw [pause_layered_failed]
  · intro r w
    rw [waitAfter_layered]
    exact List.max?_eq_some_iff
  · intro r
    rw [waitAfter_layered, List.max?_eq_none_iff]
    exact waits_eq_nil_iff
  · intro others hs a
    exact millis_pause_layered_congr hs leaf attempt a

/-- Around a backoff that is spent, with clocks four and ten seconds before the date of `datedResponse` and a reader that
knows no dates, the wait is ten seconds; it is the same with the layers in another order and one of them twice. -/
theorem spent_backoff_waits_for_earliest_clock :
    let early := HeaderReader.ofPreset .strict ⟨1041470615, 0, by decide, by decide, by decide⟩
    let late := HeaderReader.ofPreset .extended ⟨1041470621, 0, by decide, by decide, by decide⟩
    let undated := HeaderReader.ofPreset .secondsOnly ⟨0, 0, by decide, by decide, by decide⟩
    let spent : WaitRule Empty := backoff { growth := .constant, base := Span.zero, maxRetries := some 1 }
    (∀ reader, reader ∈ [late, undated, early] ↔ reader ∈ [early, undated, early, late]) ∧
      (spent.layered [early, undated, early, late]).waitAfter 2 datedResponse = some ⟨10000, by decide⟩ := by
  intro early late undated spent
  have hs : ∀ reader, reader ∈ [late, undated, early] ↔ reader ∈ [early, undated, early, late] := by
    intro reader
    simp only [List.mem_cons, List.not_mem_nil, or_false]
    grind
  have hw : spent.waits [late, undated, early] 2 datedResponse = [⟨4000, by decide⟩, ⟨10000, by decide⟩] := by
    decide +kernel
  obtain ⟨-, -, longest, -, same⟩ := layers_wait_for_longest spent [late, undated, early] 2
  refine ⟨hs, ?_⟩
  have h := (longest datedResponse ⟨10000, by decide⟩).2 (by rw [hw]; decide)
  rw [← h]
  exact (same [early, undated, early, late] hs (.answered datedResponse)).symm

end WaitRule

end RetryPolicy
