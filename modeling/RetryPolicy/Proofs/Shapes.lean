import RetryPolicy.Header.Reader

/-!
# The shapes of the formats do not overlap

Whether a text has a gap, whether it has a hyphen and what it ends in leave one date format at most, or the delays
(`Format.candidate`). Every text with the shape of a format has that format as its candidate (`candidate_of_hasShape`), so
no text has the shapes of two formats, with one exception: whole seconds are decimal seconds as well. Of a text in both
the two delays are the same, so that two formats that can read a text read the same heading (`heading_unique`).
-/

namespace RetryPolicy

open Text Header

/-! ## Marks of a text -/

namespace Text

/-- A hyphen, which stands between the parts of some dates and in no part of any. -/
def isHyphen (c : Char) : Bool := c == '-'

/-- A text of one class has nothing of a class that excludes it. -/
theorem any_eq_false_of_all {p q : Char → Bool} (hpq : ∀ c, p c = true → q c = false) {v : List Char}
    (h : v.all p = true) : v.any q = false := by
  rw [List.any_eq_false]
  intro c hc
  rw [hpq c (List.all_eq_true.1 h c hc)]
  exact Bool.false_ne_true

theorem isHyphen_eq_false_of_isWord (c : Char) (h : isWord c = true) : isHyphen c = false := by
  rw [isHyphen, beq_eq_false_iff_ne]
  rintro rfl
  exact absurd h (by decide)

theorem isHyphen_eq_false_of_isDigit (c : Char) (h : c.isDigit = true) : isHyphen c = false :=
  isHyphen_eq_false_of_isWord c (isWord_of_isDigit h)

theorem ne_hyphen_of_isGap {c : Char} (h : isGap c = true) : c ≠ '-' := by
  rintro rfl
  exact absurd h (by decide)

theorem isHyphen_eq_false_of_isGap (c : Char) (h : isGap c = true) : isHyphen c = false :=
  beq_eq_false_iff_ne.2 (ne_hyphen_of_isGap h)

theorem isGap_eq_false_of_isDigit (c : Char) (h : c.isDigit = true) : isGap c = false :=
  isGap_eq_false_of_isWord (isWord_of_isDigit h)

theorem toNat_of_isWord {c : Char} (h : isWord c = true) : 48 ≤ c.toNat ∧ c.toNat ≤ 122 := by
  delta isWord Char.isAlphanum Char.isAlpha Char.isUpper Char.isLower Char.isDigit at h
  simp only [Bool.or_eq_true, Bool.and_eq_true, decide_eq_true_eq, beq_iff_eq, ge_iff_le, UInt32.le_iff_toNat_le] at h
  rcases h with ((⟨h1, h2⟩ | ⟨h1, h2⟩) | ⟨h1, h2⟩) | rfl
  · exact ⟨Nat.le_trans (by decide) h1, Nat.le_trans h2 (by decide)⟩
  · exact ⟨Nat.le_trans (by decide) h1, Nat.le_trans h2 (by decide)⟩
  · exact ⟨Nat.le_trans (by decide) h1, Nat.le_trans h2 (by decide)⟩
  · decide

theorem isWhiteSpace_eq_false_of_isWord (c : Char) (h : isWord c = true) : isWhiteSpace c = false := by
  obtain ⟨h1, h2⟩ := toNat_of_isWord h
  simp [isWhiteSpace, whiteSpace]
  omega

theorem isWhiteSpace_eq_false_of_isDigit (c : Char) (h : c.isDigit = true) : isWhiteSpace c = false :=
  isWhiteSpace_eq_false_of_isWord c (isWord_of_isDigit h)

/-! ## Edges of a text -/

/-- There is something in the text and no white space at its edges. -/
structure Bare (cs : List Char) : Prop where
  ne_nil : cs ≠ []
  head? : ∀ c ∈ cs.head?, isWhiteSpace c = false
  getLast? : ∀ c ∈ cs.getLast?, isWhiteSpace c = false

theorem Bare.trim_eq {cs : List Char} (h : Bare cs) : trim cs = cs :=
  trim_eq_self h.head? h.getLast?

/-- A text ends with something of its last part. -/
theorem mem_of_getLast?_append {front w : List Char} (nw : w ≠ []) {c : Char} (hc : c ∈ (front ++ w).getLast?) :
    c ∈ w := by
  have hn : w.getLast? ≠ none := fun h => nw (List.getLast?_eq_none_iff.1 h)
  obtain ⟨b, hb⟩ := Option.ne_none_iff_exists'.1 hn
  rw [List.getLast?_append, hb] at hc
  cases hc
  exact List.mem_of_getLast? hb

/-- A text that begins with a word and ends with one is bare. -/
theorem bare_of_words {cs front back v w : List Char} (hv : cs = v ++ back) (hw : cs = front ++ w) (nv : v ≠ [])
    (nw : w ≠ []) (pv : v.all isWord = true) (pw : w.all isWord = true) : Bare cs := by
  refine ⟨by simp [hv, nv], ?_, ?_⟩
  · intro c hc
    obtain ⟨a, v', rfl⟩ := List.exists_cons_of_ne_nil nv
    rw [hv, List.cons_append, List.head?_cons] at hc
    cases hc
    exact isWhiteSpace_eq_false_of_isWord c (List.all_eq_true.1 pv c List.mem_cons_self)
  · intro c hc
    rw [hw] at hc
    exact isWhiteSpace_eq_false_of_isWord c (List.all_eq_true.1 pw c (mem_of_getLast?_append nw hc))

/-- A text without any white space is bare. -/
theorem bare_of_any_eq_false {cs : List Char} (hne : cs ≠ []) (h : cs.any isWhiteSpace = false) : Bare cs := by
  rw [List.any_eq_false] at h
  have hf : ∀ c ∈ cs, isWhiteSpace c = false := fun c hc => Bool.eq_false_iff.2 (h c hc)
  exact ⟨hne, fun c hc => hf c (List.mem_of_head? hc), fun c hc => hf c (List.mem_of_getLast? hc)⟩

end Text

namespace Header

/-- A time of day consists of digits and colons. -/
theorem ClockText.any_text {t : ClockText} (h : t.WellFormed) {q : Char → Bool} (hd : ∀ c, c.isDigit = true → q c = false)
    (hq : q ':' = false) : t.text.any q = false := by
  obtain ⟨-, ph, -, pm, hs⟩ := h
  have hour := any_eq_false_of_all hd ph
  have minute := any_eq_false_of_all hd pm
  have second : (marked ':' t.second).any q = false := by
    cases hv : t.second with
    | none => rfl
    | some s => simp [marked, hq, any_eq_false_of_all hd (hs s hv).2]
  simp [text, hour, minute, second, hq]

/-! ### The date of mail and HTTP: gaps, no hyphen, and `T` at the end -/

namespace ImfText

theorem any_isHyphen_text {t : ImfText} (h : t.WellFormed) : t.text.any isHyphen = false := by
  obtain ⟨hw, -, pd, g1, -, pm, g2, -, py, g3, hc, g4⟩ := h
  have weekday : (weekdayText t.weekday).any isHyphen = false := by
    cases hv : t.weekday with
    | none => rfl
    | some w =>
      obtain ⟨-, pn, -, pg⟩ := hw w hv
      have name := any_eq_false_of_all isHyphen_eq_false_of_isWord pn
      have gap := any_eq_false_of_all isHyphen_eq_false_of_isGap pg
      simp [weekdayText, name, gap, isHyphen]
  have day := any_eq_false_of_all isHyphen_eq_false_of_isDigit pd
  have month := any_eq_false_of_all isHyphen_eq_false_of_isWord pm
  have year := any_eq_false_of_all isHyphen_eq_false_of_isDigit py
  have clock := ClockText.any_text hc isHyphen_eq_false_of_isDigit rfl
  simp [text, bodyText, weekday, day, month, year, clock, isHyphen, ne_hyphen_of_isGap g1, ne_hyphen_of_isGap g2,
    ne_hyphen_of_isGap g3, ne_hyphen_of_isGap g4]

theorem any_isGap_text {t : ImfText} (h : t.WellFormed) : t.text.any isGap = true := by
  obtain ⟨-, -, -, g1, -⟩ := h
  simp [text, bodyText, g1]

theorem getLast?_text (t : ImfText) : t.text.getLast? = some 'T' := by
  simp [text, bodyText, List.getLast?_append, List.getLast?_cons]

/-- The date begins with a word or a number and ends with `GMT`. -/
theorem bare_text {t : ImfText} (h : t.WellFormed) : Bare t.text := by
  obtain ⟨hw, ld, pd, -⟩ := h
  have hz : t.text = (weekdayText t.weekday ++ (t.day ++ t.gap1 :: (t.month ++ t.gap2 :: (t.year ++ t.gap3 ::
      (t.clock.text ++ [t.gap4]))))) ++ ['G', 'M', 'T'] := by
    simp [text, bodyText]
  cases hv : t.weekday with
  | none =>
    have nd : t.day ≠ [] := ld.elim List.ne_nil_of_length_eq_add_one List.ne_nil_of_length_eq_add_one
    exact bare_of_words (by rw [text, hv, weekdayText, bodyText]; rfl) hz nd (List.cons_ne_nil _ _)
      (all_isWord_of_all_isDigit pd) (by decide)
  | some w =>
    obtain ⟨ln, pn, -⟩ := hw w hv
    exact bare_of_words (by rw [text, hv, weekdayText, List.append_assoc]) hz (List.ne_nil_of_length_eq_add_one ln)
      (List.cons_ne_nil _ _) pn (by decide)

end ImfText

/-! ### The date of RFC 850: gaps and hyphens -/

namespace Rfc850Text

theorem any_isHyphen_text (t : Rfc850Text) : t.text.any isHyphen = true := by
  simp [text, bodyText, isHyphen]

theorem any_isGap_text {t : Rfc850Text} (h : t.WellFormed) : t.text.any isGap = true := by
  obtain ⟨-, -, -, -, -, -, -, g1, -⟩ := h
  simp [text, bodyText, g1]

/-- The date begins with a word or a number and ends with the name of a zone. -/
theorem bare_text {t : Rfc850Text} (h : t.WellFormed) : Bare t.text := by
  obtain ⟨hw, ld, pd, -, -, -, -, -, -, -, nz, pz⟩ := h
  have hz : t.text = (weekdayText t.weekday ++ (t.day ++ '-' :: (t.month ++ '-' :: (t.year ++ t.gap1 ::
      (t.clock.text ++ [t.gap2]))))) ++ t.zone := by
    simp [text, bodyText]
  cases hv : t.weekday with
  | none =>
    have nd : t.day ≠ [] := ld.elim List.ne_nil_of_length_eq_add_one List.ne_nil_of_length_eq_add_one
    exact bare_of_words (by rw [text, hv, weekdayText, bodyText]; rfl) hz nd nz (all_isWord_of_all_isDigit pd) pz
  | some w =>
    obtain ⟨nn, pn, -⟩ := hw w hv
    exact bare_of_words (by rw [text, hv, weekdayText, List.append_assoc]) hz nn nz pn pz

end Rfc850Text

/-! ### The date of `asctime`: gaps, no hyphen, and a digit at the end -/

namespace AsctimeText

theorem any_isHyphen_text {t : AsctimeText} (h : t.WellFormed) : t.text.any isHyphen = false := by
  obtain ⟨hw, -, pm, -, pg1, -, pd, g2, hc, -, pg3, -, py⟩ := h
  have weekday : (weekdayText t.weekday).any isHyphen = false := by
    cases hv : t.weekday with
    | none => rfl
    | some w =>
      obtain ⟨-, pn, -, pg⟩ := hw w hv
      have name := any_eq_false_of_all isHyphen_eq_false_of_isWord pn
      have gap := any_eq_false_of_all isHyphen_eq_false_of_isGap pg
      simp [weekdayText, name, gap]
  have month := any_eq_false_of_all isHyphen_eq_false_of_isWord pm
  have gap1 := any_eq_false_of_all isHyphen_eq_false_of_isGap pg1
  have day := any_eq_false_of_all isHyphen_eq_false_of_isDigit pd
  have gap2 := isHyphen_eq_false_of_isGap _ g2
  have clock := ClockText.any_text hc isHyphen_eq_false_of_isDigit rfl
  have gap3 := any_eq_false_of_all isHyphen_eq_false_of_isGap pg3
  have year := any_eq_false_of_all isHyphen_eq_false_of_isDigit py
  simp [text, bodyText, weekday, month, gap1, day, gap2, clock, gap3, year]

theorem any_isGap_text {t : AsctimeText} (h : t.WellFormed) : t.text.any isGap = true := by
  obtain ⟨-, -, -, -, -, -, -, g2, -⟩ := h
  simp [text, bodyText, g2]

/-- The year stands last. -/
theorem text_eq_append_year (t : AsctimeText) :
    t.text = weekdayText t.weekday ++ (t.month ++ (t.gap1 ++ (t.day ++ t.gap2 :: (t.clock.text ++ t.gap3)))) ++
      t.year := by
  simp [text, bodyText]

theorem getLast?_text_ne {t : AsctimeText} (h : t.WellFormed) : t.text.getLast? ≠ some 'T' := by
  obtain ⟨-, -, -, -, -, -, -, -, -, -, -, ly, py⟩ := h
  rw [text_eq_append_year]
  intro hT
  have hd := List.all_eq_true.1 py 'T' (mem_of_getLast?_append (List.ne_nil_of_length_eq_add_one ly) hT)
  exact absurd hd (by decide)

/-- The date begins with a word and ends with a number. -/
theorem bare_text {t : AsctimeText} (h : t.WellFormed) : Bare t.text := by
  obtain ⟨hw, lm, pm, -, -, -, -, -, -, -, -, ly, py⟩ := h
  have nm := List.ne_nil_of_length_eq_add_one lm
  have ny := List.ne_nil_of_length_eq_add_one ly
  have py' := all_isWord_of_all_isDigit py
  cases hv : t.weekday with
  | none => exact bare_of_words (by rw [text, hv, weekdayText, bodyText]; rfl) t.text_eq_append_year nm ny pm py'
  | some w =>
    obtain ⟨ln, pn, -⟩ := hw w hv
    have nn := List.ne_nil_of_length_eq_add_one ln
    exact bare_of_words (by rw [text, hv, weekdayText, List.append_assoc]) t.text_eq_append_year nn ny pn py'

end AsctimeText

/-! ### The instant of ISO-8601: hyphens, no gap -/

namespace IsoText

theorem any_isHyphen_text (t : IsoText) : t.text.any isHyphen = true := by
  simp [text, isHyphen]

/-- The instant consists of digits and the signs and letters between them. -/
theorem any_text {t : IsoText} (h : t.WellFormed) {q : Char → Bool} (hd : ∀ c, c.isDigit = true → q c = false)
    (hq : ['-', 'T', ':', '.', 'Z'].any q = false) : t.text.any q = false := by
  obtain ⟨-, p1, -, p2, -, p3, -, p4, -, p5, -, p6, hf⟩ := h
  simp only [List.any_cons, List.any_nil, Bool.or_false, Bool.or_eq_false_iff] at hq
  have year := any_eq_false_of_all hd p1
  have month := any_eq_false_of_all hd p2
  have day := any_eq_false_of_all hd p3
  have hour := any_eq_false_of_all hd p4
  have minute := any_eq_false_of_all hd p5
  have second := any_eq_false_of_all hd p6
  have fraction : (marked '.' t.fraction).any q = false := by
    cases hv : t.fraction with
    | none => rfl
    | some f => simp [marked, any_eq_false_of_all hd (hf f hv).2, hq]
  simp [text, year, month, day, hour, minute, second, fraction, hq]

theorem bare_text {t : IsoText} (h : t.WellFormed) : Bare t.text :=
  bare_of_any_eq_false (by simp [text]) (any_text h isWhiteSpace_eq_false_of_isDigit (by decide))

end IsoText

/-! ### Delays: digits and a point -/

namespace DecimalText

theorem any_text {t : DecimalText} (h : t.WellFormed) {q : Char → Bool} (hd : ∀ c, c.isDigit = true → q c = false)
    (hq : q '.' = false) : t.text.any q = false := by
  obtain ⟨-, pw, hf⟩ := h
  have whole := any_eq_false_of_all hd pw
  have fraction : (marked '.' t.fraction).any q = false := by
    cases hv : t.fraction with
    | none => rfl
    | some f => simp [marked, hq, any_eq_false_of_all hd (hf f hv)]
  simp [text, whole, fraction]

theorem bare_text {t : DecimalText} (h : t.WellFormed) : Bare t.text :=
  bare_of_any_eq_false (by simp [text, h.1]) (any_text h isWhiteSpace_eq_false_of_isDigit (by decide))

end DecimalText

end Header

/-! ## Which texts have the shape of a format -/

namespace Format

theorem hasShape_wholeSeconds_iff {cs : List Char} :
    wholeSeconds.hasShape cs = true ↔ cs ≠ [] ∧ cs.all Char.isDigit = true := by
  have hr : wholeSeconds.hasShape cs = true ↔ run Char.isDigit cs = some (cs, []) := by
    rw [hasShape, read, Option.isSome_map, Header.wholeSeconds]
    cases h : run Char.isDigit cs with
    | none => simp
    | some p =>
      obtain ⟨v, r⟩ := p
      obtain ⟨rfl, -⟩ := run_eq_some_iff.1 h
      cases r <;> simp
  rw [hr, run_eq_some_iff]
  simp

theorem hasShape_decimalSeconds_iff {cs : List Char} :
    decimalSeconds.hasShape cs = true ↔ ∃ t : DecimalText, t.WellFormed ∧ t.text = cs := by
  simp only [hasShape, read, Header.decimalSeconds, Option.isSome_map, Option.isSome_iff_exists,
    DecimalText.scan_eq_some_iff]

theorem hasShape_imfFixdate_iff {cs : List Char} :
    imfFixdate.hasShape cs = true ↔ ∃ t : ImfText, t.WellFormed ∧ t.text = cs := by
  simp only [hasShape, read, Header.imfFixdate, Option.isSome_map, Option.isSome_iff_exists, ImfText.scan_eq_some_iff]

theorem hasShape_rfc850_iff {cs : List Char} :
    rfc850.hasShape cs = true ↔ ∃ t : Rfc850Text, t.WellFormed ∧ t.text = cs := by
  simp only [hasShape, read, Header.rfc850, Option.isSome_map, Option.isSome_iff_exists, Rfc850Text.scan_eq_some_iff]

theorem hasShape_asctime_iff {cs : List Char} :
    asctime.hasShape cs = true ↔ ∃ t : AsctimeText, t.WellFormed ∧ t.text = cs := by
  simp only [hasShape, read, Header.asctime, Option.isSome_map, Option.isSome_iff_exists, AsctimeText.scan_eq_some_iff]

theorem hasShape_iso8601_iff {cs : List Char} :
    iso8601.hasShape cs = true ↔ ∃ t : IsoText, t.WellFormed ∧ t.text = cs := by
  simp only [hasShape, read, Header.iso8601, Option.isSome_map, Option.isSome_iff_exists, IsoText.scan_eq_some_iff]

/-- The texts that are written in the form of a format, whether or not they can be read: runs of digits for whole seconds, and
for the others the texts that can be put together from well-formed parts. -/
def Form (f : Format) (cs : List Char) : Prop :=
  match f with
  | wholeSeconds => cs ≠ [] ∧ cs.all Char.isDigit = true
  | decimalSeconds => ∃ t : DecimalText, t.WellFormed ∧ t.text = cs
  | imfFixdate => ∃ t : ImfText, t.WellFormed ∧ t.text = cs
  | rfc850 => ∃ t : Rfc850Text, t.WellFormed ∧ t.text = cs
  | asctime => ∃ t : AsctimeText, t.WellFormed ∧ t.text = cs
  | iso8601 => ∃ t : IsoText, t.WellFormed ∧ t.text = cs

/-- The shape that is looked for is this form. -/
theorem hasShape_iff_form {f : Format} {cs : List Char} : f.hasShape cs = true ↔ f.Form cs := by
  cases f with
  | wholeSeconds => exact hasShape_wholeSeconds_iff
  | decimalSeconds => exact hasShape_decimalSeconds_iff
  | imfFixdate => exact hasShape_imfFixdate_iff
  | rfc850 => exact hasShape_rfc850_iff
  | asctime => exact hasShape_asctime_iff
  | iso8601 => exact hasShape_iso8601_iff

/-- Whole seconds are decimal seconds without a point. -/
theorem hasShape_decimalSeconds_of_wholeSeconds {cs : List Char} (h : wholeSeconds.hasShape cs = true) :
    decimalSeconds.hasShape cs = true := by
  obtain ⟨hne, hd⟩ := hasShape_wholeSeconds_iff.1 h
  exact hasShape_decimalSeconds_iff.2 ⟨⟨cs, none⟩, ⟨hne, hd, nofun⟩, by simp [DecimalText.text, marked]⟩

/-- No format begins or ends with white space, nor is any of them empty. -/
theorem bare_of_hasShape {f : Format} {cs : List Char} (h : f.hasShape cs = true) : Bare cs := by
  cases f with
  | wholeSeconds =>
    obtain ⟨t, ht, rfl⟩ := hasShape_decimalSeconds_iff.1 (hasShape_decimalSeconds_of_wholeSeconds h)
    exact DecimalText.bare_text ht
  | decimalSeconds =>
    obtain ⟨t, ht, rfl⟩ := hasShape_decimalSeconds_iff.1 h
    exact DecimalText.bare_text ht
  | imfFixdate =>
    obtain ⟨t, ht, rfl⟩ := hasShape_imfFixdate_iff.1 h
    exact ImfText.bare_text ht
  | rfc850 =>
    obtain ⟨t, ht, rfl⟩ := hasShape_rfc850_iff.1 h
    exact Rfc850Text.bare_text ht
  | asctime =>
    obtain ⟨t, ht, rfl⟩ := hasShape_asctime_iff.1 h
    exact AsctimeText.bare_text ht
  | iso8601 =>
    obtain ⟨t, ht, rfl⟩ := hasShape_iso8601_iff.1 h
    exact IsoText.bare_text ht

/-! ## One format at most -/

/-- The only format whose shape a text may have, going by its gaps, its hyphens and its end; decimal seconds stand for
both delays. -/
def candidate (cs : List Char) : Format :=
  if cs.any isGap then
    if cs.any isHyphen then rfc850 else if cs.getLast? = some 'T' then imfFixdate else asctime
  else
    if cs.any isHyphen then iso8601 else decimalSeconds

/-- The format itself, or decimal seconds in the place of whole ones, which they include. -/
def widest : Format → Format
  | wholeSeconds => decimalSeconds
  | f => f

theorem candidate_of_decimalSeconds {cs : List Char} (h : decimalSeconds.hasShape cs = true) :
    candidate cs = decimalSeconds := by
  obtain ⟨t, ht, rfl⟩ := hasShape_decimalSeconds_iff.1 h
  have gap := DecimalText.any_text ht isGap_eq_false_of_isDigit rfl
  have hyphen := DecimalText.any_text ht isHyphen_eq_false_of_isDigit rfl
  simp [candidate, gap, hyphen]

/-- A text with the shape of a format has that format as its candidate. -/
theorem candidate_of_hasShape {f : Format} {cs : List Char} (h : f.hasShape cs = true) : candidate cs = f.widest := by
  cases f with
  | wholeSeconds => exact candidate_of_decimalSeconds (hasShape_decimalSeconds_of_wholeSeconds h)
  | decimalSeconds => exact candidate_of_decimalSeconds h
  | imfFixdate =>
    obtain ⟨t, ht, rfl⟩ := hasShape_imfFixdate_iff.1 h
    simp [candidate, widest, ImfText.any_isGap_text ht, ImfText.any_isHyphen_text ht, t.getLast?_text]
  | rfc850 =>
    obtain ⟨t, ht, rfl⟩ := hasShape_rfc850_iff.1 h
    simp [candidate, widest, Rfc850Text.any_isGap_text ht, t.any_isHyphen_text]
  | asctime =>
    obtain ⟨t, ht, rfl⟩ := hasShape_asctime_iff.1 h
    simp [candidate, widest, AsctimeText.any_isGap_text ht, AsctimeText.any_isHyphen_text ht,
      AsctimeText.getLast?_text_ne ht]
  | iso8601 =>
    obtain ⟨t, ht, rfl⟩ := hasShape_iso8601_iff.1 h
    have gap := IsoText.any_text ht isGap_eq_false_of_isDigit (by decide)
    simp [candidate, widest, gap, t.any_isHyphen_text]

/-- Two formats whose shapes a text has are the same, the two delays apart. -/
theorem widest_eq_of_hasShape {f g : Format} {cs : List Char} (hf : f.hasShape cs = true) (hg : g.hasShape cs = true) :
    f.widest = g.widest := by
  rw [← candidate_of_hasShape hf, ← candidate_of_hasShape hg]

theorem widest_eq_iff {f g : Format} :
    f.widest = g.widest ↔
      f = g ∨ f = wholeSeconds ∧ g = decimalSeconds ∨ f = decimalSeconds ∧ g = wholeSeconds := by
  cases f <;> cases g <;> decide

end Format

/-! ## What is read in two formats -/

namespace Header

theorem wholeSeconds_of_digits {cs : List Char} (hne : cs ≠ []) (hd : cs.all Char.isDigit = true) :
    wholeSeconds cs = some (orFault (Span.ofSeconds? (value cs)) (.tooLong (String.ofList cs))) := by
  have hr : run Char.isDigit cs = some (cs, []) := run_eq_some_iff.2 ⟨by simp, hne, hd, nofun⟩
  rw [wholeSeconds, hr]

/-- Without a point there are no milliseconds after the whole seconds. -/
theorem DecimalText.millis_whole (cs : List Char) : (DecimalText.mk cs none).millis = value cs * 1000 := by
  have h : (DecimalText.mk cs none).fractionMillis = 0 := rfl
  rw [millis, h, Nat.add_zero]

theorem decimalSeconds_of_digits {cs : List Char} (hne : cs ≠ []) (hd : cs.all Char.isDigit = true) :
    decimalSeconds cs =
      some (orFault ((Millis.ofNat? (value cs * 1000)).map Millis.span) (.tooLong (String.ofList cs))) := by
  have hs : DecimalText.scan cs = some ⟨cs, none⟩ :=
    DecimalText.scan_eq_some_iff.2 ⟨⟨hne, hd, nofun⟩, by simp [DecimalText.text, marked]⟩
  rw [decimalSeconds, hs, Option.map_some, DecimalText.millis_whole]

/-- Of a text that is in both formats the delays are the same. -/
theorem wholeSeconds_eq_decimalSeconds {cs : List Char} {a b : Span} (ha : wholeSeconds cs = some (.ok a))
    (hb : decimalSeconds cs = some (.ok b)) : a = b := by
  have hshape : Format.wholeSeconds.hasShape cs = true := by
    simp [Format.hasShape, Format.read, ha]
  obtain ⟨hne, hd⟩ := Format.hasShape_wholeSeconds_iff.1 hshape
  rw [wholeSeconds_of_digits hne hd, Option.some.injEq, orFault_eq_ok_iff, Span.ofSeconds?_eq_some_iff] at ha
  rw [decimalSeconds_of_digits hne hd, Option.some.injEq, orFault_eq_ok_iff, Option.map_eq_some_iff] at hb
  obtain ⟨m, hm, rfl⟩ := hb
  rw [Millis.ofNat?_eq_some_iff] at hm
  apply Span.ext
  rw [ha, Span.nanos_span, hm, Nat.mul_assoc]

end Header

namespace Format

theorem hasShape_of_read {f : Format} {cs : List Char} {e : Except Fault Heading} (h : f.read cs = some e) :
    f.hasShape cs = true := by
  rw [hasShape, h]
  rfl

/-- A delay that is read in both formats for delays is the same in both. -/
theorem read_unique_of_delays {cs : List Char} {h k : Heading} (hw : wholeSeconds.read cs = some (.ok h))
    (hd : decimalSeconds.read cs = some (.ok k)) : h = k := by
  simp only [read, map_eq_ok_iff] at hw hd
  obtain ⟨a, ha, rfl⟩ := hw
  obtain ⟨b, hb, rfl⟩ := hd
  rw [wholeSeconds_eq_decimalSeconds ha hb]

/-- Whatever formats can read a text, they find the same heading in it. -/
theorem heading_unique {f g : Format} {text : String} {h k : Heading} (hf : (f.heading text).value = some h)
    (hg : (g.heading text).value = some k) : h = k := by
  rw [value_heading_eq_some_iff] at hf hg
  rcases widest_eq_iff.1 (widest_eq_of_hasShape (hasShape_of_read hf) (hasShape_of_read hg)) with
    rfl | ⟨rfl, rfl⟩ | ⟨rfl, rfl⟩
  · rw [hf] at hg
    cases hg
    rfl
  · exact read_unique_of_delays hf hg
  · exact (read_unique_of_delays hg hf).symm

end Format

end RetryPolicy
