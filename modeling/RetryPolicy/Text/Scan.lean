/-!
# Steps along a text

A step takes something from the front of a text and leaves the rest. Each has a lemma that says exactly what it takes:
the text is what was taken followed by the rest, and a step that takes as much as it can says what the rest does not
begin with. So a step that is given what it takes, put in front of such a rest, takes just that.
-/

namespace RetryPolicy.Text

/-- One character of a class. -/
def one (p : Char → Bool) : List Char → Option (Char × List Char)
  | c :: r => if p c then some (c, r) else none
  | [] => none

/-- This very character. -/
def mark (m : Char) : List Char → Option (List Char)
  | c :: r => if c = m then some r else none
  | [] => none

/-- Exactly `n` characters of a class. -/
def exactly (n : Nat) (p : Char → Bool) (cs : List Char) : Option (List Char × List Char) :=
  if (cs.take n).length = n ∧ (cs.take n).all p then some (cs.take n, cs.drop n) else none

/-- One or two characters of a class, two if there are two. -/
def oneOrTwo (p : Char → Bool) : List Char → Option (List Char × List Char)
  | a :: b :: r => if p a then (if p b then some ([a, b], r) else some ([a], b :: r)) else none
  | [a] => if p a then some ([a], []) else none
  | [] => none

/-- All the characters of a class that the text begins with, one at least. -/
def run (p : Char → Bool) (cs : List Char) : Option (List Char × List Char) :=
  if cs.takeWhile p = [] then none else some (cs.takeWhile p, cs.dropWhile p)

/-- All the characters of a class that the text begins with, perhaps none. -/
def anyRun (p : Char → Bool) (cs : List Char) : Option (List Char × List Char) :=
  some (cs.takeWhile p, cs.dropWhile p)

/-- What a step takes after a mark, if the text begins with the mark. -/
def ifMarked (m : Char) (step : List Char → Option (List Char × List Char)) :
    List Char → Option (Option (List Char) × List Char)
  | c :: cs => if c = m then (step cs).map fun (v, r) => (some v, r) else some (none, c :: cs)
  | [] => some (none, [])

/-- A part behind its mark, or nothing where the part is missing. -/
def marked (m : Char) : Option (List Char) → List Char
  | some v => m :: v
  | none => []

/-! ## What each step takes -/

theorem one_eq_some_iff {p : Char → Bool} {cs r : List Char} {c : Char} :
    one p cs = some (c, r) ↔ cs = c :: r ∧ p c = true := by
  cases cs with
  | nil => simp [one]
  | cons a s =>
    simp only [one]
    split <;> rename_i h
    · constructor
      · rintro ⟨⟩
        exact ⟨rfl, h⟩
      · rintro ⟨⟨⟩, _⟩
        rfl
    · constructor
      · nofun
      · rintro ⟨⟨⟩, h'⟩
        exact absurd h' h

theorem mark_eq_some_iff {m : Char} {cs r : List Char} : mark m cs = some r ↔ cs = m :: r := by
  cases cs with
  | nil => simp [mark]
  | cons c s =>
    by_cases h : c = m
    · simp [mark, h]
    · simp [mark, h]

theorem exactly_eq_some_iff {n : Nat} {p : Char → Bool} {cs v r : List Char} :
    exactly n p cs = some (v, r) ↔ cs = v ++ r ∧ v.length = n ∧ v.all p = true := by
  unfold exactly
  constructor
  · intro h
    split at h
    · rename_i hc
      cases h
      exact ⟨(List.take_append_drop n cs).symm, hc⟩
    · cases h
  · rintro ⟨rfl, rfl, hp⟩
    simp [hp]

theorem oneOrTwo_eq_some_iff {p : Char → Bool} {cs v r : List Char} :
    oneOrTwo p cs = some (v, r) ↔
      cs = v ++ r ∧ (v.length = 1 ∨ v.length = 2) ∧ v.all p = true ∧
        (v.length = 1 → ∀ c ∈ r.head?, p c = false) := by
  constructor
  · intro h
    unfold oneOrTwo at h
    split at h
    · repeat' split at h
      all_goals simp_all
      all_goals obtain ⟨rfl, rfl⟩ := h
      all_goals simp_all
    · split at h
      · simp_all
        obtain ⟨rfl, rfl⟩ := h
        simp_all
      · cases h
    · cases h
  · rintro ⟨rfl, h | h, hp, hr⟩
    · obtain ⟨a, rfl⟩ := List.length_eq_one_iff.1 h
      cases r with
      | nil => simp_all [oneOrTwo]
      | cons b r => simp_all [oneOrTwo]
    · match v, h with
      | [a, b], _ => simp_all [oneOrTwo]

/-- The longest run of a class and the rest are the only two parts of which the first is in the class and the second
does not begin with it. -/
theorem takeWhile_dropWhile_iff {p : Char → Bool} {cs v r : List Char} :
    cs.takeWhile p = v ∧ cs.dropWhile p = r ↔ cs = v ++ r ∧ v.all p = true ∧ ∀ c ∈ r.head?, p c = false := by
  constructor
  · rintro ⟨rfl, rfl⟩
    refine ⟨List.takeWhile_append_dropWhile.symm, by simp, ?_⟩
    intro c hc
    have := List.head?_dropWhile_not p cs
    rw [hc] at this
    simpa using this
  · rintro ⟨rfl, hp, hr⟩
    have hp' : ∀ c ∈ v, p c = true := by simpa using hp
    rw [List.takeWhile_append_of_pos hp', List.dropWhile_append_of_pos hp']
    cases r with
    | nil => simp
    | cons c r => simp [hr c rfl]

theorem anyRun_eq_some_iff {p : Char → Bool} {cs v r : List Char} :
    anyRun p cs = some (v, r) ↔ cs = v ++ r ∧ v.all p = true ∧ ∀ c ∈ r.head?, p c = false := by
  rw [← takeWhile_dropWhile_iff]
  simp [anyRun]

theorem run_eq_some_iff {p : Char → Bool} {cs v r : List Char} :
    run p cs = some (v, r) ↔ cs = v ++ r ∧ v ≠ [] ∧ v.all p = true ∧ ∀ c ∈ r.head?, p c = false := by
  rw [and_left_comm, ← takeWhile_dropWhile_iff]
  unfold run
  split
  · rename_i h
    simp [h]
    exact fun hne hv => absurd hv hne
  · rename_i h
    simp only [Option.some.injEq, Prod.mk.injEq]
    exact ⟨fun hv => ⟨hv.1 ▸ h, hv⟩, And.right⟩

theorem ifMarked_eq_some_iff {m : Char} {step : List Char → Option (List Char × List Char)} {cs r : List Char}
    {o : Option (List Char)} :
    ifMarked m step cs = some (o, r) ↔
      (∃ v cs', o = some v ∧ cs = m :: cs' ∧ step cs' = some (v, r)) ∨ o = none ∧ cs = r ∧ m ∉ r.head? := by
  cases cs with
  | nil =>
    cases o with
    | some v => simp [ifMarked]
    | none => cases r <;> simp [ifMarked]
  | cons c cs =>
    by_cases h : c = m
    · subst h
      cases o with
      | some v => simp [ifMarked]
      | none => cases r <;> simp +contextual [ifMarked]
    · cases o with
      | some v => simp [ifMarked, h]
      | none =>
        simp only [ifMarked, if_neg h, Option.some.injEq, Prod.mk.injEq, true_and, reduceCtorEq, false_and,
          exists_const, false_or]
        exact ⟨fun hr => ⟨hr, by simp [← hr, h]⟩, And.left⟩

/-! ## Texts put together can be taken apart -/

theorem one_cons {p : Char → Bool} {c : Char} {r : List Char} (h : p c = true) : one p (c :: r) = some (c, r) :=
  one_eq_some_iff.2 ⟨rfl, h⟩

@[simp] theorem mark_cons (m : Char) (r : List Char) : mark m (m :: r) = some r :=
  mark_eq_some_iff.2 rfl

theorem exactly_append {n : Nat} {p : Char → Bool} {v r : List Char} (hl : v.length = n) (hp : v.all p = true) :
    exactly n p (v ++ r) = some (v, r) :=
  exactly_eq_some_iff.2 ⟨rfl, hl, hp⟩

theorem oneOrTwo_append {p : Char → Bool} {v r : List Char} (hl : v.length = 1 ∨ v.length = 2) (hp : v.all p = true)
    (hr : ∀ c ∈ r.head?, p c = false) : oneOrTwo p (v ++ r) = some (v, r) :=
  oneOrTwo_eq_some_iff.2 ⟨rfl, hl, hp, fun _ => hr⟩

theorem run_append {p : Char → Bool} {v r : List Char} (hne : v ≠ []) (hp : v.all p = true)
    (hr : ∀ c ∈ r.head?, p c = false) : run p (v ++ r) = some (v, r) :=
  run_eq_some_iff.2 ⟨rfl, hne, hp, hr⟩

theorem anyRun_append {p : Char → Bool} {v r : List Char} (hp : v.all p = true) (hr : ∀ c ∈ r.head?, p c = false) :
    anyRun p (v ++ r) = some (v, r) :=
  anyRun_eq_some_iff.2 ⟨rfl, hp, hr⟩

theorem ifMarked_append {m : Char} {f : List Char → Option (List Char × List Char)} {o : Option (List Char)}
    {r : List Char} (hs : ∀ v ∈ o, f (v ++ r) = some (v, r)) (hr : o = none → m ∉ r.head?) :
    ifMarked m f (marked m o ++ r) = some (o, r) := by
  refine ifMarked_eq_some_iff.2 ?_
  cases o with
  | some v => exact .inl ⟨v, v ++ r, rfl, rfl, hs v rfl⟩
  | none => exact .inr ⟨rfl, rfl, hr rfl⟩

end RetryPolicy.Text
