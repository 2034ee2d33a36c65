import RetryPolicy.Proofs.JsonGrammar

/-!
# Reading undoes writing

The text that is written for a value is read back as that value: `read?_write`. The one condition is that what the value
holds as numbers are numbers (`WellFormed`); strings may hold anything. A value that stands in a text meets it
(`IsTextOf.wellFormed`), and what is written is a text of the grammar (`valueText_write`), so the reader does the rest.
-/

namespace RetryPolicy.Json

open Text

/-! ## Strings -/

theorem hexFour?_control {n : Nat} (h : n < 0x20) :
    hexFour? '0' '0' (if n < 0x10 then '0' else '1') (Nat.digitChar (n % 16)) = some n := by
  have all : ∀ n < 0x20, hexFour? '0' '0' (if n < 0x10 then '0' else '1') (Nat.digitChar (n % 16)) = some n := by decide
  exact all n h

/-- A character that was escaped stands for one unit, that of the character. -/
theorem unitsText_escape {body : List Char} {units : List Nat} (c : Char) (h : UnitsText body units) :
    UnitsText (escape c ++ body) (c.toNat :: units) := by
  unfold escape
  -- seven characters have a short escape
  iterate 7
    split
    · subst c
      exact .short rfl h
  split
  · rename_i hc
    exact .hex (hexFour?_control hc) h
  · rename_i hq hb _ _ _ _ _ hc
    exact .plain hq hb hc h

theorem unitsText_flatMap_escape (cs : List Char) : UnitsText (cs.flatMap escape) (cs.map Char.toNat) := by
  induction cs with
  | nil => exact .nil
  | cons c cs ih => exact unitsText_escape c ih

/-- A character is no half of a surrogate pair. -/
theorem toNat_not_surrogate (c : Char) : ¬(0xd800 ≤ c.toNat ∧ c.toNat < 0xe000) := by
  have := c.valid
  simp only [UInt32.isValidChar, Nat.isValidChar] at this
  simp only [Char.toNat]
  omega

/-- The units of characters are decoded as these characters. -/
theorem decodeUnits_toNat (cs : List Char) : decodeUnits (cs.map Char.toNat) = some cs := by
  induction cs with
  | nil => rfl
  | cons c cs ih =>
    have hc := toNat_not_surrogate c
    cases cs with
    | nil => rw [List.map_cons, List.map_nil, decodeUnits, if_neg hc, Char.ofNat_toNat]
    | cons d cs =>
      rw [List.map_cons, List.map_cons, decodeUnits, if_neg (by omega), if_neg (by omega), Char.ofNat_toNat]
      rw [List.map_cons] at ih
      rw [ih]
      rfl

theorem stringText_writeText (s : JsonText) : StringText (writeText s) s := by
  cases s with
  | none => exact .quoted (.hex (u := 0xd800) rfl .nil)
  | some s =>
    have h := StringText.quoted (unitsText_flatMap_escape s.toList)
    rw [decodeUnits_toNat, Option.map_some, String.ofList_toList] at h
    exact h

/-! ## Numbers -/

/-- The digits of a number are a number: they have no leading zero. -/
theorem numberText_digits (n : Nat) : NumberText (digits n) := by
  have hwhole : WholeText (digits n) := by
    by_cases hn : n = 0
    · subst n
      exact .zero
    · exact .digits (List.length_pos_iff.1 (length_digits_pos n)) (all_isDigit_digits n) (head?_digits_ne (by omega))
  have h := NumberText.parts (.inl rfl) hwhole .absent .absent
  rwa [List.append_nil, List.append_nil, List.nil_append] at h

/-- A number in digits alone is written as the number that they denote. -/
theorem NumberText.digits_value {lexeme : List Char} (h : NumberText lexeme) (hdigits : lexeme.all Char.isDigit = true) :
    digits (value lexeme) = lexeme := by
  obtain ⟨hsign, hwhole, hfraction, hexponent⟩ := h
  simp only [List.all_append, Bool.and_eq_true] at hdigits
  obtain ⟨hs, ⟨-, hf⟩, he⟩ := hdigits
  -- a sign, a fraction or an exponent has a first character that is no digit
  obtain rfl := hsign.resolve_right fun hminus => absurd (hminus ▸ hs) (by decide)
  cases hfraction with
  | digits _ _ => cases hf
  | absent =>
    cases hexponent with
    | digits hmark _ _ _ => rcases hmark with rfl | rfl <;> cases he
    | absent =>
      simp only [List.append_nil, List.nil_append]
      cases hwhole with
      | zero => rfl
      | digits hne hds hlead => exact Text.digits_value hne hds hlead

/-! ## Values -/

/-- What the value holds as numbers are numbers. -/
inductive WellFormed : Json → Prop where
  | null : WellFormed null
  | bool (b : Bool) : WellFormed (bool b)
  | number {lexeme : List Char} (h : NumberText lexeme) : WellFormed (number lexeme)
  | string (t : JsonText) : WellFormed (string t)
  | array {items : List Json} (h : ∀ v ∈ items, WellFormed v) : WellFormed (array items)
  | object {members : List (JsonText × Json)} (h : ∀ m ∈ members, WellFormed m.2) : WellFormed (object members)

theorem wellFormed_ofNat (n : Nat) : (ofNat n).WellFormed := .number (numberText_digits n)

theorem isTextOf_of_valueText {t : List Char} {v : Json} (h : ValueText t v) : IsTextOf t v := by
  have := IsTextOf.blanks blanks_nil h blanks_nil
  rwa [List.append_nil, List.nil_append] at this

theorem itemsText_writeItems {items : List Json} (hne : items ≠ []) (h : ∀ v ∈ items, ValueText v.write v) :
    ItemsText (writeItems items) items := by
  induction items with
  | nil => exact absurd rfl hne
  | cons v vs ih =>
    obtain ⟨hv, hvs⟩ := List.forall_mem_cons.1 h
    cases vs with
    | nil =>
      rw [writeItems]
      exact .last (isTextOf_of_valueText hv)
    | cons w ws =>
      rw [writeItems]
      exact .more (isTextOf_of_valueText hv) (ih (List.cons_ne_nil w ws) hvs)

theorem membersText_writeMembers {members : List (JsonText × Json)} (hne : members ≠ [])
    (h : ∀ m ∈ members, ValueText m.2.write m.2) : MembersText (writeMembers members) members := by
  induction members with
  | nil => exact absurd rfl hne
  | cons m ms ih =>
    obtain ⟨key, v⟩ := m
    obtain ⟨hv, hms⟩ := List.forall_mem_cons.1 h
    have hkey : NameText (writeText key) key := by
      have := NameText.blanks blanks_nil (stringText_writeText key) blanks_nil
      rwa [List.append_nil, List.nil_append] at this
    cases ms with
    | nil =>
      rw [writeMembers]
      exact .last hkey (isTextOf_of_valueText hv)
    | cons m' ms =>
      rw [writeMembers, List.append_assoc, List.cons_append]
      exact .more hkey (isTextOf_of_valueText hv) (ih (List.cons_ne_nil m' ms) hms)

/-- What is written for a value is its text. -/
theorem valueText_write {v : Json} (hv : v.WellFormed) : ValueText v.write v := by
  induction hv with
  | null =>
    rw [write]
    exact .null
  | bool b =>
    cases b with
    | true =>
      rw [write]
      exact .yes
    | false =>
      rw [write]
      exact .no
  | number h =>
    rw [write]
    exact .number h
  | string t =>
    rw [write]
    exact .string (stringText_writeText t)
  | @array items h ih =>
    rw [write, List.cons_append]
    cases items with
    | nil => exact .noItems blanks_nil
    | cons v vs => exact .array (itemsText_writeItems (List.cons_ne_nil v vs) ih)
  | @object members h ih =>
    rw [write, List.cons_append]
    cases members with
    | nil => exact .noMembers blanks_nil
    | cons m ms => exact .object (membersText_writeMembers (List.cons_ne_nil m ms) ih)

theorem isTextOf_of_eq_write {cs : List Char} {v : Json} (hv : v.WellFormed) (hcs : cs = v.write) : IsTextOf cs v :=
  hcs ▸ isTextOf_of_valueText (valueText_write hv)

/-- The text that is written for a value is read back as that value. -/
theorem read?_write {v : Json} (hv : v.WellFormed) : read? v.write = some v :=
  read?_eq_some_iff.2 (isTextOf_of_eq_write hv rfl)

mutual

theorem IsTextOf.wellFormed : ∀ {t : List Char} {v : Json}, IsTextOf t v → v.WellFormed
  | _, _, .blanks _ h _ => h.wellFormed

theorem ValueText.wellFormed : ∀ {t : List Char} {v : Json}, ValueText t v → v.WellFormed
  | _, _, .null => .null
  | _, _, .yes => .bool true
  | _, _, .no => .bool false
  | _, _, .number h => .number h
  | _, _, .string _ => .string _
  | _, _, .noItems _ => .array nofun
  | _, _, .array h => .array h.wellFormed
  | _, _, .noMembers _ => .object nofun
  | _, _, .object h => .object h.wellFormed

theorem ItemsText.wellFormed : ∀ {t : List Char} {items : List Json}, ItemsText t items → ∀ v ∈ items, v.WellFormed
  | _, _, .last h => List.forall_mem_singleton.2 h.wellFormed
  | _, _, .more h hmore => List.forall_mem_cons.2 ⟨h.wellFormed, hmore.wellFormed⟩

theorem MembersText.wellFormed : ∀ {t : List Char} {members : List (JsonText × Json)}, MembersText t members →
    ∀ m ∈ members, m.2.WellFormed
  | _, _, .last _ h => List.forall_mem_singleton.2 h.wellFormed
  | _, _, .more _ h hmore => List.forall_mem_cons.2 ⟨h.wellFormed, hmore.wellFormed⟩

end

end RetryPolicy.Json
