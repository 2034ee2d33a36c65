import RetryPolicy.Json.Reader

/-!
# The parts of JSON texts

Blanks, strings and numbers: the grammar of each, and that the reader takes from the front of a text just what the grammar
has. What is written is read (`UnitsText.readUnits`, `NumberText.read`), and what is read is written (`exists_unitsText`,
`numberText_of_read`). Only a number could be taken for longer than it is, and the marks and blanks that may follow a value
do not go on one (`Delimited`).
-/

namespace RetryPolicy.Json

open Text

/-! ## Blanks -/

/-- Blanks and nothing else. -/
def Blanks (b : List Char) : Prop :=
  b.all isBlank = true

section

variable {b cs r : List Char}

theorem blanks_nil : Blanks [] := rfl

theorem skipBlanks_cons {c : Char} (h : isBlank c = false) (r : List Char) : skipBlanks (c :: r) = c :: r := by
  rw [skipBlanks, List.dropWhile_cons, h]
  rfl

theorem skipBlanks_append (hb : Blanks b) (cs : List Char) : skipBlanks (b ++ cs) = skipBlanks cs :=
  List.dropWhile_append_of_pos (List.all_eq_true.1 hb)

theorem exists_blanks (cs : List Char) : ∃ b, Blanks b ∧ cs = b ++ skipBlanks cs := by
  obtain ⟨hcs, hb, -⟩ := takeWhile_dropWhile_iff.1 ⟨rfl, rfl⟩
  exact ⟨cs.takeWhile isBlank, hb, hcs⟩

@[simp] theorem skipBlanks_skipBlanks (cs : List Char) : skipBlanks (skipBlanks cs) = skipBlanks cs := by
  obtain ⟨b, hb, hcs⟩ := exists_blanks cs
  have := skipBlanks_append hb (skipBlanks cs)
  rw [← hcs] at this
  exact this.symm

end

/-! ## Strings -/

/-- What stands between the quotes of a string, and its code units: a character for one that is no control, no quote and no
backslash, or a short escape, or the four digits of a unit. -/
inductive UnitsText : List Char → List Nat → Prop
  | nil : UnitsText [] []
  | plain {c : Char} {cs : List Char} {units : List Nat} (hquote : c ≠ '"') (hescape : c ≠ '\\')
      (hcontrol : ¬c.toNat < 0x20) (h : UnitsText cs units) : UnitsText (c :: cs) (c.toNat :: units)
  | short {e : Char} {u : Nat} {cs : List Char} {units : List Nat} (hu : shortEscape? e = some u)
      (h : UnitsText cs units) : UnitsText ('\\' :: e :: cs) (u :: units)
  | hex {a b c d : Char} {u : Nat} {cs : List Char} {units : List Nat} (hu : hexFour? a b c d = some u)
      (h : UnitsText cs units) : UnitsText ('\\' :: 'u' :: a :: b :: c :: d :: cs) (u :: units)

/-- A string with its quotes. It has a text unless its units name half a surrogate pair alone. -/
inductive StringText : List Char → JsonText → Prop
  | quoted {body : List Char} {units : List Nat} (h : UnitsText body units) :
      StringText ('"' :: body ++ ['"']) ((decodeUnits units).map String.ofList)

section

variable {r rest body cs : List Char} {units : List Nat}

theorem readUnits_short {e : Char} {n : Nat} (hs : shortEscape? e = some n)
    (h : readUnits r = some (units, rest)) : readUnits ('\\' :: e :: r) = some (n :: units, rest) := by
  rw [readUnits]
  · rw [hs, h]
    rfl
  · rintro a b c d r' rfl
    cases hs

theorem readUnits_plain {c : Char} (hq : c ≠ '"') (hb : c ≠ '\\') (hc : ¬c.toNat < 0x20)
    (h : readUnits r = some (units, rest)) : readUnits (c :: r) = some (c.toNat :: units, rest) := by
  rw [readUnits]
  · rw [h, if_neg (by simp [hc, hb])]
    rfl
  · exact hq
  · intro a b c' d r' hb'
    exact absurd hb' hb
  · intro e r' hb'
    exact absurd hb' hb

theorem readUnits_hex {a b c d : Char} {n : Nat} (hu : hexFour? a b c d = some n)
    (h : readUnits r = some (units, rest)) :
    readUnits ('\\' :: 'u' :: a :: b :: c :: d :: r) = some (n :: units, rest) := by
  rw [readUnits, hu, h]
  rfl

theorem UnitsText.readUnits (h : UnitsText body units) (rest : List Char) :
    readUnits (body ++ '"' :: rest) = some (units, rest) := by
  induction h with
  | nil => rw [List.nil_append, Json.readUnits]
  | plain hquote hescape hcontrol _ ih => exact readUnits_plain hquote hescape hcontrol ih
  | short hu _ ih => exact readUnits_short hu ih
  | hex hu _ ih => exact readUnits_hex hu ih

theorem exists_unitsText (h : readUnits cs = some (units, rest)) :
    ∃ body, UnitsText body units ∧ cs = body ++ '"' :: rest := by
  fun_induction Json.readUnits cs generalizing units with
  | case1 r =>
    cases h
    exact ⟨[], .nil, rfl⟩
  | case2 a b c d r ih =>
    obtain ⟨u, hu, h⟩ := Option.bind_eq_some_iff.1 h
    obtain ⟨⟨us, r'⟩, hr, h⟩ := Option.bind_eq_some_iff.1 h
    cases h
    obtain ⟨body, hbody, rfl⟩ := ih hr
    exact ⟨_, .hex hu hbody, rfl⟩
  | case3 e r _ ih =>
    obtain ⟨u, hu, h⟩ := Option.bind_eq_some_iff.1 h
    obtain ⟨⟨us, r'⟩, hr, h⟩ := Option.bind_eq_some_iff.1 h
    cases h
    obtain ⟨body, hbody, rfl⟩ := ih hr
    exact ⟨_, .short hu hbody, rfl⟩
  | case4 c r => cases h
  | case5 c r hquote _ _ hc ih =>
    obtain ⟨⟨us, r'⟩, hr, h⟩ := Option.bind_eq_some_iff.1 h
    cases h
    obtain ⟨body, hbody, rfl⟩ := ih hr
    exact ⟨_, .plain hquote (fun he => hc (.inr he)) (fun hn => hc (.inl hn)) hbody, rfl⟩
  | case6 => cases h

end

/-! ## Numbers -/

/-- The whole part of a number: a zero alone, or digits that begin with another. -/
inductive WholeText : List Char → Prop
  | zero : WholeText ['0']
  | digits {ds : List Char} (hne : ds ≠ []) (hds : ds.all Char.isDigit = true) (hlead : ds.head? ≠ some '0') : WholeText ds

/-- A fraction, if there is one. -/
inductive FractionText : List Char → Prop
  | absent : FractionText []
  | digits {ds : List Char} (hne : ds ≠ []) (hds : ds.all Char.isDigit = true) : FractionText ('.' :: ds)

/-- An exponent, if there is one. -/
inductive ExponentText : List Char → Prop
  | absent : ExponentText []
  | digits {e : Char} {sign ds : List Char} (he : e = 'e' ∨ e = 'E') (hsign : sign = [] ∨ sign = ['+'] ∨ sign = ['-'])
      (hne : ds ≠ []) (hds : ds.all Char.isDigit = true) : ExponentText (e :: (sign ++ ds))

/-- A number. -/
inductive NumberText : List Char → Prop
  | parts {sign whole fraction exponent : List Char} (hsign : sign = [] ∨ sign = ['-']) (hwhole : WholeText whole)
      (hfraction : FractionText fraction) (hexponent : ExponentText exponent) :
      NumberText (sign ++ (whole ++ fraction ++ exponent))

/-- A number can go on with the character. -/
def continuesNumber (c : Char) : Bool :=
  c.isDigit || c == '.' || c == 'e' || c == 'E'

/-- No number goes on with the text. -/
def Delimited (rest : List Char) : Prop :=
  ∀ c ∈ rest.head?, continuesNumber c = false

theorem delimited_nil : Delimited [] := nofun

theorem delimited_cons {c : Char} (h : continuesNumber c = false) (rest : List Char) : Delimited (c :: rest) := by
  intro c' hc'
  cases hc'
  exact h

theorem Delimited.ne {rest : List Char} (h : Delimited rest) :
    ∀ c ∈ rest.head?, c.isDigit = false ∧ c ≠ '.' ∧ c ≠ 'e' ∧ c ≠ 'E' := by
  intro c hc
  simpa [continuesNumber, and_assoc] using h c hc

section

variable {cs v r : List Char}

/-! ### What is written is read -/

theorem WholeText.read (h : WholeText v) (hr : ∀ c ∈ r.head?, c.isDigit = false) : readWhole (v ++ r) = some (v, r) := by
  cases h with
  | zero => rfl
  | digits hne hds hlead =>
    rw [readWhole]
    · exact run_append hne hds hr
    · intro t ht
      obtain ⟨c, v, rfl⟩ := List.exists_cons_of_ne_nil hne
      obtain ⟨rfl, -⟩ := List.cons.inj ht
      exact hlead rfl

/-- The whole part of a number begins with a digit. -/
theorem WholeText.exists_cons (h : WholeText v) : ∃ c t, v = c :: t ∧ c.isDigit = true := by
  cases h with
  | zero => exact ⟨'0', [], rfl, by decide⟩
  | digits hne hds _ =>
    obtain ⟨c, t, rfl⟩ := List.exists_cons_of_ne_nil hne
    exact ⟨c, t, rfl, (Bool.and_eq_true_iff.1 hds).1⟩

theorem FractionText.read (h : FractionText v) (hr : ∀ c ∈ r.head?, c.isDigit = false ∧ c ≠ '.') :
    readFraction (v ++ r) = some (v, r) := by
  cases h with
  | absent =>
    rw [List.nil_append, readFraction]
    rintro t rfl
    exact (hr '.' rfl).2 rfl
  | digits hne hds =>
    rw [List.cons_append, readFraction, run_append hne hds fun c hc => (hr c hc).1]
    rfl

theorem ExponentText.read (h : ExponentText v) (hr : ∀ c ∈ r.head?, c.isDigit = false ∧ c ≠ 'e' ∧ c ≠ 'E') :
    readExponent (v ++ r) = some (v, r) := by
  cases h with
  | absent =>
    cases r with
    | nil => rfl
    | cons c r =>
      have hc := (hr c rfl).2
      rw [List.nil_append, readExponent, if_neg (by simp [hc])]
  | @digits e sign ds he hsign hne hds =>
    have hread : readSign (sign ++ ds ++ r) = (sign, ds ++ r) := by
      rcases hsign with rfl | rfl | rfl
      · obtain ⟨d, ds, rfl⟩ := List.exists_cons_of_ne_nil hne
        have hd := (Bool.and_eq_true_iff.1 hds).1
        simp only [List.nil_append, List.cons_append]
        rw [readSign]
        · rintro t ht
          obtain ⟨rfl, -⟩ := List.cons.inj ht
          exact absurd hd (by decide)
        · rintro t ht
          obtain ⟨rfl, -⟩ := List.cons.inj ht
          exact absurd hd (by decide)
      · rfl
      · rfl
    rw [List.cons_append, readExponent, if_pos he, hread, run_append hne hds fun c hc => (hr c hc).1]
    rfl

/-- Neither a digit nor a point follows what has no fraction. -/
theorem ExponentText.ne_of_head? (h : ExponentText v) (hr : Delimited r) :
    ∀ c ∈ (v ++ r).head?, c.isDigit = false ∧ c ≠ '.' := by
  intro c hc
  cases h with
  | absent => exact ⟨(hr.ne c hc).1, (hr.ne c hc).2.1⟩
  | digits he _ _ _ =>
    cases hc
    rcases he with rfl | rfl
    · decide
    · decide

/-- No digit follows the digits of a whole part. -/
theorem FractionText.isDigit_eq_false_of_head? (h : FractionText v) (hr : ∀ c ∈ r.head?, c.isDigit = false) :
    ∀ c ∈ (v ++ r).head?, c.isDigit = false := by
  intro c hc
  cases h with
  | absent => exact hr c hc
  | digits _ _ =>
    cases hc
    decide

theorem readUnsigned_append {whole fraction exponent : List Char} (hwhole : WholeText whole)
    (hfraction : FractionText fraction) (hexponent : ExponentText exponent) (hr : Delimited r) :
    readUnsigned (whole ++ fraction ++ exponent ++ r) = some (whole ++ fraction ++ exponent, r) := by
  have hne := hexponent.ne_of_head? hr
  have h₁ := hwhole.read (hfraction.isDigit_eq_false_of_head? fun c hc => (hne c hc).1)
  have h₂ := hfraction.read hne
  have h₃ := hexponent.read fun c hc => ⟨(hr.ne c hc).1, (hr.ne c hc).2.2⟩
  rw [List.append_assoc, List.append_assoc, readUnsigned, h₁]
  simp [h₂, h₃]

/-- A number begins with a minus sign or with a digit. -/
theorem NumberText.exists_cons (h : NumberText v) : ∃ c t, v = c :: t ∧ (c = '-' ∨ c.isDigit = true) := by
  obtain ⟨hsign, hwhole, -, -⟩ := h
  rcases hsign with rfl | rfl
  · obtain ⟨c, t, rfl, hc⟩ := hwhole.exists_cons
    exact ⟨c, _, rfl, .inr hc⟩
  · exact ⟨'-', _, rfl, .inl rfl⟩

theorem readNumber_of_isDigit {c : Char} (h : c.isDigit = true) (t : List Char) :
    readNumber (c :: t) = readUnsigned (c :: t) := by
  rw [readNumber]
  intro t' ht
  obtain ⟨rfl, -⟩ := List.cons.inj ht
  exact absurd h (by decide)

/-- A number is read as a whole in front of a text that does not go on it. -/
theorem NumberText.read (h : NumberText v) (hr : Delimited r) : readNumber (v ++ r) = some (v, r) := by
  obtain ⟨hsign, hwhole, hfraction, hexponent⟩ := h
  have hunsigned := readUnsigned_append hwhole hfraction hexponent hr
  rcases hsign with rfl | rfl
  · obtain ⟨c, t, rfl, hc⟩ := hwhole.exists_cons
    rw [List.nil_append]
    exact (readNumber_of_isDigit hc _).trans hunsigned
  · rw [List.append_assoc, List.singleton_append, readNumber, hunsigned]
    rfl

/-! ### What is read is written -/

theorem wholeText_of_read (h : readWhole cs = some (v, r)) : WholeText v ∧ cs = v ++ r := by
  unfold readWhole at h
  split at h
  · cases h
    exact ⟨.zero, rfl⟩
  · rename_i hzero
    obtain ⟨rfl, hne, hv, -⟩ := run_eq_some_iff.1 h
    refine ⟨.digits hne hv ?_, rfl⟩
    intro hlead
    obtain ⟨c, v, rfl⟩ := List.exists_cons_of_ne_nil hne
    cases hlead
    exact hzero _ rfl

theorem fractionText_of_read (h : readFraction cs = some (v, r)) : FractionText v ∧ cs = v ++ r := by
  unfold readFraction at h
  split at h
  · obtain ⟨⟨ds, r'⟩, hrun, he⟩ := Option.map_eq_some_iff.1 h
    cases he
    obtain ⟨rfl, hne, hds, -⟩ := run_eq_some_iff.1 hrun
    exact ⟨.digits hne hds, rfl⟩
  · cases h
    exact ⟨.absent, rfl⟩

theorem readSign_eq (cs : List Char) :
    ((readSign cs).1 = [] ∨ (readSign cs).1 = ['+'] ∨ (readSign cs).1 = ['-']) ∧
      cs = (readSign cs).1 ++ (readSign cs).2 := by
  unfold readSign
  split
  · exact ⟨.inr (.inl rfl), rfl⟩
  · exact ⟨.inr (.inr rfl), rfl⟩
  · exact ⟨.inl rfl, rfl⟩

theorem exponentText_of_read (h : readExponent cs = some (v, r)) : ExponentText v ∧ cs = v ++ r := by
  cases cs with
  | nil =>
    cases h
    exact ⟨.absent, rfl⟩
  | cons c cs =>
    rw [readExponent] at h
    split at h
    · rename_i hc
      obtain ⟨⟨ds, r'⟩, hrun, he⟩ := Option.map_eq_some_iff.1 h
      cases he
      obtain ⟨hds, hne, hdigits, -⟩ := run_eq_some_iff.1 hrun
      obtain ⟨hsign, hcs⟩ := readSign_eq cs
      rw [hds] at hcs
      refine ⟨.digits hc hsign hne hdigits, ?_⟩
      rw [List.cons_append, List.cons_append, List.append_assoc, ← hcs]
    · cases h
      exact ⟨.absent, rfl⟩

theorem numberText_of_readUnsigned {sign : List Char} (hsign : sign = [] ∨ sign = ['-'])
    (h : readUnsigned cs = some (v, r)) : NumberText (sign ++ v) ∧ cs = v ++ r := by
  simp only [readUnsigned, Option.bind_eq_bind, Option.bind_eq_some_iff, Option.pure_def, Option.some.injEq, Prod.exists,
    Prod.mk.injEq] at h
  obtain ⟨whole, cs₁, h₁, fraction, cs₂, h₂, exponent, cs₃, h₃, rfl, rfl⟩ := h
  obtain ⟨hwhole, rfl⟩ := wholeText_of_read h₁
  obtain ⟨hfraction, rfl⟩ := fractionText_of_read h₂
  obtain ⟨hexponent, rfl⟩ := exponentText_of_read h₃
  exact ⟨.parts hsign hwhole hfraction hexponent, by simp only [List.append_assoc]⟩

theorem numberText_of_read (h : readNumber cs = some (v, r)) : NumberText v ∧ cs = v ++ r := by
  unfold readNumber at h
  split at h
  · obtain ⟨⟨lexeme, r'⟩, hread, he⟩ := Option.map_eq_some_iff.1 h
    cases he
    obtain ⟨hnumber, rfl⟩ := numberText_of_readUnsigned (.inr rfl) hread
    exact ⟨hnumber, rfl⟩
  · exact numberText_of_readUnsigned (.inl rfl) h

end

end RetryPolicy.Json
