import RetryPolicy.Text.Scan

/-!
# Patterns

A pattern describes texts and has numbered groups, which keep what they take of a text. Its meaning leaves open how often to repeat
and where to divide (`Pattern.Matches`). It is put together here from the meanings of its parts: a pattern denotes parts that fit,
the texts that they are written as and the groups in which they are kept (`Pattern.Denotes`). Where the parts can be found in a text
in one way only, the groups can take no others (`Pattern.Denotes.matches_iff`).
-/

namespace RetryPolicy

namespace Text

/-- What the numbered groups of a pattern take, in the order in which they open. A group that takes no part is left out. -/
abbrev Captures := List (Nat × List Char)

/-- A description of texts. -/
inductive Pattern where
  | nothing
  /-- One character of a class. -/
  | one (p : Char → Bool)
  /-- Two patterns, one behind the other. -/
  | seq (first second : Pattern)
  /-- A pattern again and again, as often as the bounds allow. -/
  | times (low : Nat) (high : Option Nat) (repeated : Pattern)
  /-- A numbered group. -/
  | group (n : Nat) (inside : Pattern)

namespace Pattern

/-- So many texts behind each other that belong to a language. -/
def Repeats (language : List Char → Captures → Prop) : Nat → List Char → Captures → Prop
  | 0, v, g => v = [] ∧ g = []
  | n + 1, v, g => ∃ a k b l, language a k ∧ Repeats language n b l ∧ v = a ++ b ∧ g = k ++ l

/-- The whole text is in the pattern when its groups take these parts. -/
def Matches : Pattern → List Char → Captures → Prop
  | nothing, v, g => v = [] ∧ g = []
  | one p, v, g => ∃ c, p c = true ∧ v = [c] ∧ g = []
  | seq first second, v, g => ∃ a k b l, first.Matches a k ∧ second.Matches b l ∧ v = a ++ b ∧ g = k ++ l
  | times low high repeated, v, g => ∃ n, low ≤ n ∧ (∀ m ∈ high, n ≤ m) ∧ Repeats repeated.Matches n v g
  | group n inside, v, g => ∃ k, inside.Matches v k ∧ g = (n, v) :: k

/-- Patterns behind each other. -/
def inOrder (ps : List Pattern) : Pattern :=
  ps.foldr seq nothing

/-- This very text. -/
def literal (cs : List Char) : Pattern :=
  inOrder (cs.map fun c => one (· == c))

/-- Characters of a class, as many as the bounds allow. -/
def chars (low : Nat) (high : Option Nat) (p : Char → Bool) : Pattern :=
  times low high (one p)

/-- A pattern that may be missing. -/
def optional (p : Pattern) : Pattern :=
  times 0 (some 1) p

/-! ## What a pattern denotes -/

/-- The pattern takes just the texts of parts that fit, and keeps them in these groups. -/
def Denotes {T : Type} (q : Pattern) (Fits : T → Prop) (text : T → List Char) (groups : T → Captures) : Prop :=
  ∀ v g, q.Matches v g ↔ ∃ t, Fits t ∧ text t = v ∧ groups t = g

variable {p : Char → Bool} {q : Pattern} {ps : List Pattern}

/-- Texts of one length and one class, so often repeated, are the texts of that class of so many times the length. -/
theorem repeats_iff {language : List Char → Captures → Prop} {width : Nat}
    (h : ∀ v g, language v g ↔ v.length = width ∧ v.all p = true ∧ g = []) {n : Nat} {v : List Char} {g : Captures} :
    Repeats language n v g ↔ v.length = n * width ∧ v.all p = true ∧ g = [] := by
  induction n generalizing v g with
  | zero =>
    rw [Repeats, Nat.zero_mul, List.length_eq_zero_iff]
    constructor
    · rintro ⟨rfl, rfl⟩
      exact ⟨rfl, rfl, rfl⟩
    · rintro ⟨rfl, -, rfl⟩
      exact ⟨rfl, rfl⟩
  | succ n ih =>
    simp only [Repeats, h, ih]
    constructor
    · rintro ⟨a, k, b, l, ⟨la, pa, rfl⟩, ⟨lb, pb, rfl⟩, rfl, rfl⟩
      rw [List.length_append, List.all_append, la, lb, pa, pb, Nat.succ_mul, Nat.add_comm]
      exact ⟨rfl, rfl, rfl⟩
    · rintro ⟨lv, pv, rfl⟩
      rw [Nat.succ_mul] at lv
      rw [List.all_eq_true] at pv
      refine ⟨v.take width, [], v.drop width, [], ⟨?_, ?_, rfl⟩, ⟨?_, ?_, rfl⟩, (List.take_append_drop width v).symm, rfl⟩
      · rw [List.length_take]
        omega
      · exact List.all_eq_true.2 fun c hc => pv c (List.mem_of_mem_take hc)
      · rw [List.length_drop]
        omega
      · exact List.all_eq_true.2 fun c hc => pv c (List.mem_of_mem_drop hc)

theorem matches_one_iff {v : List Char} {g : Captures} :
    (one p).Matches v g ↔ v.length = 1 ∧ v.all p = true ∧ g = [] := by
  rw [Matches]
  constructor
  · rintro ⟨c, hc, rfl, rfl⟩
    simp [hc]
  · rintro ⟨hl, hp, rfl⟩
    obtain ⟨c, rfl⟩ := List.length_eq_one_iff.1 hl
    simpa using hp

theorem matches_chars_iff {low : Nat} {high : Option Nat} {v : List Char} {g : Captures} :
    (chars low high p).Matches v g ↔ low ≤ v.length ∧ (∀ m ∈ high, v.length ≤ m) ∧ v.all p = true ∧ g = [] := by
  constructor
  · rintro ⟨n, hlow, hhigh, hrepeats⟩
    obtain ⟨hl, hv⟩ := (repeats_iff fun _ _ => matches_one_iff).1 hrepeats
    rw [Nat.mul_one] at hl
    exact ⟨hl ▸ hlow, hl ▸ hhigh, hv⟩
  · rintro ⟨hlow, hhigh, hv⟩
    exact ⟨v.length, hlow, hhigh, (repeats_iff fun _ _ => matches_one_iff).2 ⟨(Nat.mul_one _).symm, hv⟩⟩

theorem matches_literal_iff {cs v : List Char} {g : Captures} : (literal cs).Matches v g ↔ v = cs ∧ g = [] := by
  induction cs generalizing v g with
  | nil => exact Iff.rfl
  | cons c cs ih =>
    constructor
    · rintro ⟨a, k, b, l, ⟨d, hd, rfl, rfl⟩, hrest, rfl, rfl⟩
      obtain ⟨rfl, rfl⟩ := ih.1 hrest
      rw [eq_of_beq hd]
      exact ⟨rfl, rfl⟩
    · rintro ⟨rfl, rfl⟩
      exact ⟨[c], [], cs, [], ⟨c, beq_self_eq_true c, rfl, rfl⟩, ih.2 ⟨rfl, rfl⟩, rfl, rfl⟩

theorem denotes_one (p : Char → Bool) : (one p).Denotes (fun c => p c = true) (fun c => [c]) (fun _ => []) := by
  intro v g
  simp only [Matches, eq_comm]

theorem denotes_single (p : Char → Bool) :
    (one p).Denotes (fun v => v.length = 1 ∧ v.all p = true) id (fun _ => []) := by
  intro v g
  rw [matches_one_iff]
  constructor
  · rintro ⟨hl, hp, rfl⟩
    exact ⟨v, ⟨hl, hp⟩, rfl, rfl⟩
  · rintro ⟨_, ⟨hl, hp⟩, rfl, rfl⟩
    exact ⟨hl, hp, rfl⟩

/-- Characters denote the texts whose length and class are theirs. -/
theorem denotes_chars {low : Nat} {high : Option Nat} {Long : List Char → Prop}
    (hlong : ∀ v, Long v ↔ low ≤ v.length ∧ ∀ m ∈ high, v.length ≤ m) :
    (chars low high p).Denotes (fun v => Long v ∧ v.all p = true) id (fun _ => []) := by
  intro v g
  rw [matches_chars_iff]
  constructor
  · rintro ⟨hlow, hhigh, hp, rfl⟩
    exact ⟨v, ⟨(hlong v).2 ⟨hlow, hhigh⟩, hp⟩, rfl, rfl⟩
  · rintro ⟨_, ⟨hv, hp⟩, rfl, rfl⟩
    obtain ⟨hlow, hhigh⟩ := (hlong _).1 hv
    exact ⟨hlow, hhigh, hp, rfl⟩

theorem denotes_exactly (n : Nat) (p : Char → Bool) :
    (chars n (some n) p).Denotes (fun v => v.length = n ∧ v.all p = true) id (fun _ => []) := by
  apply denotes_chars
  intro v
  simp only [Option.mem_def, Option.some.injEq, forall_eq']
  omega

theorem denotes_oneOrTwo (p : Char → Bool) :
    (chars 1 (some 2) p).Denotes (fun v => (v.length = 1 ∨ v.length = 2) ∧ v.all p = true) id (fun _ => []) := by
  apply denotes_chars
  intro v
  simp only [Option.mem_def, Option.some.injEq, forall_eq']
  omega

theorem denotes_many (p : Char → Bool) :
    (chars 1 none p).Denotes (fun v => v ≠ [] ∧ v.all p = true) id (fun _ => []) := by
  apply denotes_chars
  intro v
  rw [← List.length_pos_iff]
  exact ⟨fun h => ⟨h, nofun⟩, And.left⟩

theorem denotes_any (p : Char → Bool) : (chars 0 none p).Denotes (fun v => v.all p = true) id (fun _ => []) := by
  intro v g
  rw [matches_chars_iff]
  constructor
  · rintro ⟨-, -, hp, rfl⟩
    exact ⟨v, hp, rfl, rfl⟩
  · rintro ⟨_, hp, rfl, rfl⟩
    exact ⟨Nat.zero_le _, nofun, hp, rfl⟩

/-- Characters in blocks of one width are as many as a multiple of the width. -/
theorem denotes_blocks (low high width : Nat) (p : Char → Bool) :
    (times low (some high) (chars width (some width) p)).Denotes
      (fun v => (∃ n, low ≤ n ∧ n ≤ high ∧ v.length = n * width) ∧ v.all p = true) id (fun _ => []) := by
  have hblock : ∀ v g, (chars width (some width) p).Matches v g ↔ v.length = width ∧ v.all p = true ∧ g = [] := by
    intro v g
    rw [denotes_exactly width p v g]
    constructor
    · rintro ⟨_, ⟨hl, hp⟩, rfl, rfl⟩
      exact ⟨hl, hp, rfl⟩
    · rintro ⟨hl, hp, rfl⟩
      exact ⟨v, ⟨hl, hp⟩, rfl, rfl⟩
  intro v g
  constructor
  · rintro ⟨n, hlow, hhigh, hrepeats⟩
    obtain ⟨hl, hp, rfl⟩ := (repeats_iff hblock).1 hrepeats
    exact ⟨v, ⟨⟨n, hlow, hhigh high rfl, hl⟩, hp⟩, rfl, rfl⟩
  · rintro ⟨v, ⟨⟨n, hlow, hhigh, hl⟩, hp⟩, rfl, rfl⟩
    refine ⟨n, hlow, ?_, (repeats_iff hblock).2 ⟨hl, hp, rfl⟩⟩
    rintro _ ⟨⟩
    exact hhigh

namespace Denotes

variable {T U : Type} {Fits : T → Prop} {text : T → List Char} {groups : T → Captures} {Fits' : U → Prop}
  {text' : U → List Char} {groups' : U → Captures}

/-- A group keeps the text of the parts inside. -/
theorem group (h : q.Denotes Fits text groups) (n : Nat) :
    (group n q).Denotes Fits text fun t => (n, text t) :: groups t := by
  intro v g
  constructor
  · rintro ⟨k, hk, rfl⟩
    obtain ⟨t, ht, rfl, rfl⟩ := (h v k).1 hk
    exact ⟨t, ht, rfl, rfl⟩
  · rintro ⟨t, ht, rfl, rfl⟩
    exact ⟨groups t, (h _ _).2 ⟨t, ht, rfl, rfl⟩, rfl⟩

/-- The parts of a pattern that may be missing may be missing. -/
theorem optional (h : q.Denotes Fits text groups) :
    (optional q).Denotes (fun o : Option T => ∀ t ∈ o, Fits t) (fun o => (o.map text).getD [])
      (fun o => (o.map groups).getD []) := by
  intro v g
  constructor
  · rintro ⟨n, -, hn, hrepeats⟩
    simp only [Option.mem_def, Option.some.injEq, forall_eq'] at hn
    match n, hn with
    | 0, _ =>
      obtain ⟨rfl, rfl⟩ := hrepeats
      exact ⟨none, nofun, rfl, rfl⟩
    | 1, _ =>
      obtain ⟨a, k, b, l, hq, ⟨rfl, rfl⟩, rfl, rfl⟩ := hrepeats
      obtain ⟨t, ht, rfl, rfl⟩ := (h a k).1 hq
      exact ⟨some t, by simpa using ht, by simp, by simp⟩
  · rintro ⟨o, ho, rfl, rfl⟩
    cases o with
    | none => exact ⟨0, Nat.zero_le 0, by simp, rfl, rfl⟩
    | some t =>
      have hq := (h (text t) (groups t)).2 ⟨t, ho t rfl, rfl, rfl⟩
      exact ⟨1, Nat.zero_le 1, by simp, text t, groups t, [], [], hq, ⟨rfl, rfl⟩, by simp, by simp⟩

/-- Patterns behind each other denote pairs of parts. -/
theorem cons (h : q.Denotes Fits text groups) (h' : (inOrder ps).Denotes Fits' text' groups') :
    (inOrder (q :: ps)).Denotes (fun x : T × U => Fits x.1 ∧ Fits' x.2) (fun x => text x.1 ++ text' x.2)
      (fun x => groups x.1 ++ groups' x.2) := by
  intro v g
  constructor
  · rintro ⟨a, k, b, l, hq, hps, rfl, rfl⟩
    obtain ⟨t, ht, rfl, rfl⟩ := (h a k).1 hq
    obtain ⟨u, hu, rfl, rfl⟩ := (h' b l).1 hps
    exact ⟨(t, u), ⟨ht, hu⟩, rfl, rfl⟩
  · rintro ⟨⟨t, u⟩, ⟨ht, hu⟩, rfl, rfl⟩
    exact ⟨_, _, _, _, (h _ _).2 ⟨t, ht, rfl, rfl⟩, (h' _ _).2 ⟨u, hu, rfl, rfl⟩, rfl, rfl⟩

/-- The last pattern stands alone. -/
theorem last (h : q.Denotes Fits text groups) : (inOrder [q]).Denotes Fits text groups := by
  intro v g
  rw [← h v g]
  constructor
  · rintro ⟨a, k, b, l, hq, ⟨rfl, rfl⟩, rfl, rfl⟩
    rwa [List.append_nil, List.append_nil]
  · intro hq
    exact ⟨v, g, [], [], hq, ⟨rfl, rfl⟩, (List.append_nil v).symm, (List.append_nil g).symm⟩

/-- A literal has no parts. -/
theorem behind (cs : List Char) (h : (inOrder ps).Denotes Fits text groups) :
    (inOrder (literal cs :: ps)).Denotes Fits (fun t => cs ++ text t) groups := by
  intro v g
  constructor
  · rintro ⟨a, k, b, l, hcs, hps, rfl, rfl⟩
    obtain ⟨rfl, rfl⟩ := matches_literal_iff.1 hcs
    obtain ⟨t, ht, rfl, rfl⟩ := (h b l).1 hps
    exact ⟨t, ht, rfl, rfl⟩
  · rintro ⟨t, ht, rfl, rfl⟩
    exact ⟨cs, [], _, _, matches_literal_iff.2 ⟨rfl, rfl⟩, (h _ _).2 ⟨t, ht, rfl, rfl⟩, rfl, rfl⟩

theorem before (cs : List Char) (h : q.Denotes Fits text groups) :
    (inOrder [q, literal cs]).Denotes Fits (fun t => text t ++ cs) groups := by
  intro v g
  constructor
  · rintro ⟨a, k, b, l, hq, hcs, rfl, rfl⟩
    obtain ⟨_, _, _, _, hcs, ⟨rfl, rfl⟩, rfl, rfl⟩ := hcs
    obtain ⟨rfl, rfl⟩ := matches_literal_iff.1 hcs
    obtain ⟨t, ht, rfl, rfl⟩ := (h a k).1 hq
    exact ⟨t, ht, by simp, by simp⟩
  · rintro ⟨t, ht, rfl, rfl⟩
    have hcs : (literal cs).Matches cs [] := matches_literal_iff.2 ⟨rfl, rfl⟩
    exact ⟨_, groups t, cs, [], (h _ _).2 ⟨t, ht, rfl, rfl⟩, ⟨cs, [], [], [], hcs, ⟨rfl, rfl⟩, by simp, rfl⟩, rfl, by simp⟩

/-- The same parts may be seen in another way. -/
theorem seen (h : q.Denotes Fits text groups) (see : U → T) (hsee : Function.Surjective see)
    (hfits : ∀ u, Fits' u ↔ Fits (see u)) (htext : ∀ u, text' u = text (see u)) (hgroups : ∀ u, groups' u = groups (see u)) :
    q.Denotes Fits' text' groups' := by
  intro v g
  rw [h v g]
  constructor
  · rintro ⟨t, ht, rfl, rfl⟩
    obtain ⟨u, rfl⟩ := hsee t
    exact ⟨u, (hfits u).2 ht, htext u, hgroups u⟩
  · rintro ⟨u, hu, rfl, rfl⟩
    exact ⟨see u, (hfits u).1 hu, (htext u).symm, (hgroups u).symm⟩

/-- Parts that are found in a text in one way only are those that the groups take. -/
theorem matches_iff (h : q.Denotes Fits text groups) {scan : List Char → Option T}
    (hscan : ∀ {cs t}, scan cs = some t ↔ Fits t ∧ text t = cs) {cs : List Char} {g : Captures} :
    q.Matches cs g ↔ (scan cs).map groups = some g := by
  rw [h cs g, Option.map_eq_some_iff]
  simp only [hscan, and_assoc]

end Denotes

end Pattern

end Text

end RetryPolicy
