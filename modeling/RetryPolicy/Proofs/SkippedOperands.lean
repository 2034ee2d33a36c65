import RetryPolicy.Condition

/-!
# Conditions as formulas

A condition says of a response what the formula says that it is written as (`holdsFor_iff_meets`), but its leaves have effects
as well, and an operand that cannot matter is skipped together with its effects. Which leaves run is told by their
places: an evaluation comes to some places and not to others (`Reaches`), `ran` lists the leaves that it comes to from left
to right, and its trace and its events are those of these leaves, one after the other (`effects_evaluate`). A law of Boolean
algebra that keeps the leaves in their order therefore changes nothing at all, wherever in a condition it is used
(`Interchangeable`).
-/

namespace RetryPolicy.Condition

variable {τ : Type} {c d p q : Condition τ} {r : Response}

/-! ## Parts of a condition -/

/-- The two sides on which an operand can stand. The one operand of a `not` stands on the left. -/
inductive Side where
  | left
  | right
  deriving DecidableEq

/-- The place of a part: the sides to take on the way to it. -/
abbrev Place := List Side

/-- The operand on a side. -/
def operand? : Condition τ → Side → Option (Condition τ)
  | and p _, .left => some p
  | and _ q, .right => some q
  | or p _, .left => some p
  | or _ q, .right => some q
  | not p, .left => some p
  | _, _ => none

/-- The part at a place. -/
def part? (c : Condition τ) : Place → Option (Condition τ)
  | [] => some c
  | side :: w => (c.operand? side).bind fun p => p.part? w

/-- The condition has no operands. -/
def IsLeaf : Condition τ → Prop
  | and _ _ => False
  | or _ _ => False
  | not _ => False
  | _ => True

/-- Two ways part, the first to the left and the second to the right. -/
def LeftOf (v w : Place) : Prop :=
  ∃ u a b, v = u ++ .left :: a ∧ w = u ++ .right :: b

theorem LeftOf.cons {v w : Place} (h : LeftOf v w) (side : Side) : LeftOf (side :: v) (side :: w) := by
  obtain ⟨u, a, b, rfl, rfl⟩ := h
  exact ⟨side :: u, a, b, rfl, rfl⟩

/-- No place is left of itself. -/
theorem LeftOf.ne {v w : Place} (h : LeftOf v w) : v ≠ w := by
  obtain ⟨u, a, b, rfl, rfl⟩ := h
  simp

/-! ## Formulas and ways -/

/-- The formula that the condition is written as, with the answers of the leaves in their places. -/
def Meets : Condition τ → Response → Prop
  | and p q, r => p.Meets r ∧ q.Meets r
  | or p q, r => p.Meets r ∨ q.Meets r
  | not p, r => ¬p.Meets r
  | leaf, r => leaf.holdsFor r = true

/-- The operand on a side is not skipped. Only on the right one can be. -/
def Consults : Condition τ → Response → Side → Prop
  | and p _, r, .right => p.Meets r
  | or p _, r, .right => ¬p.Meets r
  | _, _, _ => True

/-- An evaluation comes to the part at a place: nothing is skipped on the way to it. -/
def Reaches (c : Condition τ) (r : Response) : Place → Prop
  | [] => True
  | side :: w => c.Consults r side ∧ ∀ p ∈ c.operand? side, p.Reaches r w

/-- Leaves of an operand with their places in the whole. -/
def under (side : Side) (leaves : List (Place × Condition τ)) : List (Place × Condition τ) :=
  leaves.map fun l => (side :: l.1, l.2)

/-- The leaves that run, each with its place, from left to right. -/
def ran : Condition τ → Response → List (Place × Condition τ)
  | and p q, r => under .left (p.ran r) ++ if p.holdsFor r then under .right (q.ran r) else []
  | or p q, r => under .left (p.ran r) ++ if p.holdsFor r then [] else under .right (q.ran r)
  | not p, r => under .left (p.ran r)
  | leaf, _ => [([], leaf)]

/-- The verdict is the truth of the formula. -/
theorem holdsFor_iff_meets (c : Condition τ) (r : Response) : c.holdsFor r = true ↔ c.Meets r := by
  induction c with
  | table t => rfl
  | limit l => rfl
  | test label holds => rfl
  | and p q ihp ihq => simp [Meets, ihp, ihq]
  | or p q ihp ihq => simp [Meets, ihp, ihq]
  | not p ih => simp [Meets, ← ih]

/-! ## Effects -/

/-- What of a verdict adds up along an evaluation is, for the whole, what it is for the leaves that ran, one after the
other. -/
theorem effects_evaluate {β : Type} {effects : Verdict τ → List β}
    (handThen : ∀ v w, effects (v.andThen w) = effects v ++ effects w) (hnegate : ∀ v, effects v.negate = effects v)
    (c : Condition τ) (r : Response) :
    effects (c.evaluate r) = (c.ran r).flatMap fun l => effects (l.2.evaluate r) := by
  induction c with
  | table t => simp [ran]
  | limit l => simp [ran]
  | test label holds => simp [ran]
  | and p q ihp ihq =>
    rw [evaluate, ran, holdsFor]
    cases h : (p.evaluate r).holds with
    | true => simp [under, List.flatMap_map, handThen, ihp, ihq]
    | false => simp [under, List.flatMap_map, ihp]
  | or p q ihp ihq =>
    rw [evaluate, ran, holdsFor]
    cases h : (p.evaluate r).holds with
    | true => simp [under, List.flatMap_map, ihp]
    | false => simp [under, List.flatMap_map, handThen, ihp, ihq]
  | not p ih =>
    rw [evaluate, ran, hnegate, ih]
    simp [under, List.flatMap_map]

theorem mem_under_iff {side : Side} {leaves : List (Place × Condition τ)} {w : Place} {leaf : Condition τ} :
    (w, leaf) ∈ under side leaves ↔ ∃ v, w = side :: v ∧ (v, leaf) ∈ leaves := by
  simp only [under, List.mem_map, Prod.exists, Prod.mk.injEq]
  constructor
  · rintro ⟨v, l, hmem, rfl, rfl⟩
    exact ⟨v, rfl, hmem⟩
  · rintro ⟨v, rfl, hmem⟩
    exact ⟨v, leaf, hmem, rfl, rfl⟩

/-- A condition runs as a leaf of itself if it is one. -/
theorem mem_ran_nil {leaf : Condition τ} : ([], leaf) ∈ c.ran r ↔ leaf = c ∧ c.IsLeaf := by
  cases c with
  | table t => simp [ran, IsLeaf]
  | limit l => simp [ran, IsLeaf]
  | test label holds => simp [ran, IsLeaf]
  | and p q => simp [ran, IsLeaf, mem_under_iff]
  | or p q => simp [ran, IsLeaf, mem_under_iff]
  | not p => simp [ran, IsLeaf, mem_under_iff]

/-- A leaf of an operand runs if it runs in the operand and the operand is not skipped. -/
theorem mem_ran_cons {side : Side} {w : Place} {leaf : Condition τ} :
    (side :: w, leaf) ∈ c.ran r ↔ c.Consults r side ∧ ∃ p, c.operand? side = some p ∧ (w, leaf) ∈ p.ran r := by
  cases c with
  | table t => simp [ran, operand?]
  | limit l => simp [ran, operand?]
  | test label holds => simp [ran, operand?]
  | and p q =>
    cases side with
    | left => simp [ran, operand?, Consults, mem_under_iff]
    | right => simp [ran, operand?, Consults, mem_under_iff, holdsFor_iff_meets]
  | or p q =>
    cases side with
    | left => simp [ran, operand?, Consults, mem_under_iff]
    | right => simp [ran, operand?, Consults, mem_under_iff, ← holdsFor_iff_meets]
  | not p =>
    cases side with
    | left => simp [ran, operand?, Consults, mem_under_iff]
    | right => simp [ran, operand?, mem_under_iff]

/-- The leaves that run are those to which the evaluation comes. -/
theorem mem_ran_iff {w : Place} {leaf : Condition τ} :
    (w, leaf) ∈ c.ran r ↔ c.part? w = some leaf ∧ leaf.IsLeaf ∧ c.Reaches r w := by
  induction w generalizing c with
  | nil =>
    rw [mem_ran_nil, part?, Reaches, and_true, Option.some.injEq, eq_comm]
    exact and_congr_right fun h => by rw [h]
  | cons side w ih =>
    rw [mem_ran_cons, part?, Reaches]
    cases c.operand? side with
    | none => simp
    | some p => simp [ih, and_left_comm]

theorem pairwise_under {leaves : List (Place × Condition τ)} (side : Side) (h : (leaves.map Prod.fst).Pairwise LeftOf) :
    ((under side leaves).map Prod.fst).Pairwise LeftOf := by
  rw [under, List.map_map, List.pairwise_map]
  exact (List.pairwise_map.1 h).imp fun hvw => hvw.cons side

/-- The leaves of the left operand are left of those of the right one. -/
theorem leftOf_under (leaves leaves' : List (Place × Condition τ)) :
    ∀ v ∈ (under .left leaves).map Prod.fst, ∀ w ∈ (under .right leaves').map Prod.fst, LeftOf v w := by
  simp only [under, List.map_map, List.mem_map]
  rintro v ⟨l, -, rfl⟩ w ⟨l', -, rfl⟩
  exact ⟨[], l.1, l'.1, rfl, rfl⟩

/-- Each leaf that runs is left of those that run after it. -/
theorem pairwise_ran (c : Condition τ) (r : Response) : ((c.ran r).map Prod.fst).Pairwise LeftOf := by
  induction c with
  | table t => simp [ran]
  | limit l => simp [ran]
  | test label holds => simp [ran]
  | and p q ihp ihq =>
    rw [ran, List.map_append, List.pairwise_append]
    cases p.holdsFor r with
    | true => exact ⟨pairwise_under .left ihp, pairwise_under .right ihq, leftOf_under _ _⟩
    | false => exact ⟨pairwise_under .left ihp, .nil, nofun⟩
  | or p q ihp ihq =>
    rw [ran, List.map_append, List.pairwise_append]
    cases p.holdsFor r with
    | true => exact ⟨pairwise_under .left ihp, .nil, nofun⟩
    | false => exact ⟨pairwise_under .left ihp, pairwise_under .right ihq, leftOf_under _ _⟩
  | not p ih => exact pairwise_under .left ih

/-- An evaluation comes to an operand if it comes to the condition and does not skip the operand. -/
theorem reaches_concat {w : Place} {side : Side} (hd : c.part? w = some d) :
    c.Reaches r (w ++ [side]) ↔ c.Reaches r w ∧ d.Consults r side := by
  induction w generalizing c with
  | nil =>
    obtain rfl : c = d := Option.some.inj hd
    simp [Reaches]
  | cons s w ih =>
    obtain ⟨p, hp, hpd⟩ := Option.bind_eq_some_iff.1 hd
    simp [Reaches, hp, ih hpd, and_assoc]

/-! ## Laws -/

/-- Conditions that laws turn into each other. -/
inductive Interchangeable : Condition τ → Condition τ → Prop
  | refl (p : Condition τ) : Interchangeable p p
  | symm {p q : Condition τ} (h : Interchangeable p q) : Interchangeable q p
  | trans {p q s : Condition τ} (h : Interchangeable p q) (h' : Interchangeable q s) : Interchangeable p s
  | deMorgan (p q : Condition τ) : Interchangeable (not (and p q)) (or (not p) (not q))
  | andAssoc (p q s : Condition τ) : Interchangeable (and (and p q) s) (and p (and q s))
  | orAssoc (p q s : Condition τ) : Interchangeable (or (or p q) s) (or p (or q s))
  | and {p p' q q' : Condition τ} (hp : Interchangeable p p') (hq : Interchangeable q q') :
      Interchangeable (and p q) (and p' q')
  | or {p p' q q' : Condition τ} (hp : Interchangeable p p') (hq : Interchangeable q q') :
      Interchangeable (or p q) (or p' q')
  | not {p p' : Condition τ} (hp : Interchangeable p p') : Interchangeable (not p) (not p')

/-- A law changes neither the verdict nor the trace nor the events. -/
theorem Interchangeable.evaluate_eq (h : c.Interchangeable d) (r : Response) : c.evaluate r = d.evaluate r := by
  induction h with
  | refl p => rfl
  | symm _ ih => exact ih.symm
  | trans _ _ ih ih' => exact ih.trans ih'
  | deMorgan p q =>
    cases h : (p.evaluate r).holds with
    | true => simp [evaluate, Verdict.negate, Verdict.andThen, h]
    | false => simp [evaluate, Verdict.negate, h]
  | andAssoc p q s =>
    cases hp : (p.evaluate r).holds with
    | true =>
      cases hq : (q.evaluate r).holds with
      | true => simp [evaluate, Verdict.andThen, hp, hq]
      | false => simp [evaluate, Verdict.andThen, hp, hq]
    | false => simp [evaluate, hp]
  | orAssoc p q s =>
    cases hp : (p.evaluate r).holds with
    | true => simp [evaluate, hp]
    | false =>
      cases hq : (q.evaluate r).holds with
      | true => simp [evaluate, Verdict.andThen, hp, hq]
      | false => simp [evaluate, Verdict.andThen, hp, hq]
  | and _ _ ihp ihq => rw [evaluate, evaluate, ihp, ihq]
  | or _ _ ihp ihq => rw [evaluate, evaluate, ihp, ihq]
  | not _ ih => rw [evaluate, evaluate, ih]

/-! ## Evaluation -/

/-- What an evaluation is. The verdict is the truth of the formula. The leaves run from left to right, none of them twice, and
they are those to which the evaluation comes: it comes to the whole, to the left operand of each part to which it comes, and
to the right operand of an `and` (an `or`) exactly where it came to the left one and that one held (failed). The trace and
the events are those of the leaves that ran, one after the other. And conditions that the laws turn into each other, anywhere
inside them, differ in nothing of this. -/
theorem evaluation_runs_what_matters (c : Condition τ) (r : Response) :
    (c.holdsFor r = true ↔ c.Meets r) ∧
    (((c.ran r).map Prod.fst).Pairwise LeftOf ∧ ((c.ran r).map Prod.fst).Nodup ∧
      ∀ w leaf, (w, leaf) ∈ c.ran r ↔ c.part? w = some leaf ∧ leaf.IsLeaf ∧ c.Reaches r w) ∧
    (c.Reaches r [] ∧ ∀ w d, c.part? w = some d →
      (c.Reaches r (w ++ [.left]) ↔ c.Reaches r w) ∧
      (∀ p q, d = and p q → (c.Reaches r (w ++ [.right]) ↔ c.Reaches r (w ++ [.left]) ∧ p.holdsFor r = true)) ∧
      (∀ p q, d = or p q → (c.Reaches r (w ++ [.right]) ↔ c.Reaches r (w ++ [.left]) ∧ p.holdsFor r = false))) ∧
    ((c.evaluate r).trace = (c.ran r).flatMap (fun l => (l.2.evaluate r).trace) ∧
      (c.evaluate r).events = (c.ran r).flatMap fun l => (l.2.evaluate r).events) ∧
    ∀ d, c.Interchangeable d → c.evaluate r = d.evaluate r := by
  refine ⟨holdsFor_iff_meets c r, ⟨pairwise_ran c r, ?_, fun w leaf => mem_ran_iff⟩, ⟨?_, ?_⟩, ⟨?_, ?_⟩, ?_⟩
  · exact (pairwise_ran c r).imp LeftOf.ne
  · exact trivial
  · intro w d hd
    have hleft : c.Reaches r (w ++ [.left]) ↔ c.Reaches r w := by
      rw [reaches_concat hd]
      cases d <;> simp [Consults]
    refine ⟨hleft, ?_, ?_⟩
    · rintro p q rfl
      rw [hleft, reaches_concat hd, holdsFor_iff_meets, Consults]
    · rintro p q rfl
      rw [hleft, reaches_concat hd, ← Bool.not_eq_true, holdsFor_iff_meets, Consults]
  · exact effects_evaluate (fun v w => rfl) (fun v => rfl) c r
  · exact effects_evaluate (fun v w => rfl) (fun v => rfl) c r
  · exact fun d h => h.evaluate_eq r

/-- Of a denied `and` under an `or` the second operand is skipped when the first fails, and no law changes that. -/
theorem second_operand_skipped_under_denial :
    let first : Condition Nat := test 1 fun r => r.status == 503
    let second : Condition Nat := test 2 fun r => r.status == 404
    let c := or (not (and first second)) (table (StatusTable.ofMode .idempotent))
    let d := or (or (not first) (not second)) (table (StatusTable.ofMode .idempotent))
    let r : Response := (SampleResponse.mk 404 []).view
    c.part? [.left, .left] = some (and first second) ∧ c.Interchangeable d ∧
      ¬c.Reaches r [.left, .left, .right] ∧ (d.evaluate r).trace = [1] := by
  intro first second c d r
  have hpart : c.part? [.left, .left] = some (and first second) := rfl
  have hlaws : c.Interchangeable d := .or (.deMorgan first second) (.refl _)
  obtain ⟨-, -, ⟨-, steps⟩, -, laws⟩ := evaluation_runs_what_matters c r
  refine ⟨hpart, hlaws, ?_, ?_⟩
  · intro hreaches
    have hfirst := (((steps [.left, .left] (and first second) hpart).2.1 first second rfl).1 hreaches).2
    exact absurd hfirst (by decide)
  · rw [← laws d hlaws]
    rfl

end RetryPolicy.Condition
