import RetryPolicy.Proofs.JsonLexemes

/-!
# The grammar of JSON

`IsTextOf` is the grammar: which texts there are and which value each of them has, with blanks wherever they may stand. The
reader accepts the texts of the grammar and no others, and reads each as its value (`read?_eq_some_iff`). Its steps count
down, so both directions are by induction on how many are left: what so many steps read (`ReadsTexts`) and that they read
nothing else (`ReadsOnlyTexts`).
-/

namespace RetryPolicy.Json

/-! ## Values -/

/-- The name of a member, with blanks around it. -/
inductive NameText : List Char → JsonText → Prop
  | blanks {b t b' : List Char} {key : JsonText} (hb : Blanks b) (h : StringText t key) (hb' : Blanks b') :
      NameText (b ++ (t ++ b')) key

mutual

/-- The text of a value, with blanks around it. -/
inductive IsTextOf : List Char → Json → Prop
  | blanks {b t b' : List Char} {v : Json} (hb : Blanks b) (h : ValueText t v) (hb' : Blanks b') :
      IsTextOf (b ++ (t ++ b')) v

/-- The text of a value, from its first character to its last. -/
inductive ValueText : List Char → Json → Prop
  | null : ValueText ['n', 'u', 'l', 'l'] null
  | yes : ValueText ['t', 'r', 'u', 'e'] (bool true)
  | no : ValueText ['f', 'a', 'l', 's', 'e'] (bool false)
  | number {lexeme : List Char} (h : NumberText lexeme) : ValueText lexeme (number lexeme)
  | string {t : List Char} {s : JsonText} (h : StringText t s) : ValueText t (string s)
  | noItems {b : List Char} (hb : Blanks b) : ValueText ('[' :: (b ++ [']'])) (array [])
  | array {t : List Char} {items : List Json} (h : ItemsText t items) : ValueText ('[' :: (t ++ [']'])) (array items)
  | noMembers {b : List Char} (hb : Blanks b) : ValueText ('\x7b' :: (b ++ ['\x7d'])) (object [])
  | object {t : List Char} {members : List (JsonText × Json)} (h : MembersText t members) :
      ValueText ('\x7b' :: (t ++ ['\x7d'])) (object members)

/-- Values with commas between them. -/
inductive ItemsText : List Char → List Json → Prop
  | last {t : List Char} {v : Json} (h : IsTextOf t v) : ItemsText t [v]
  | more {t ts : List Char} {v : Json} {vs : List Json} (h : IsTextOf t v) (hmore : ItemsText ts vs) :
      ItemsText (t ++ ',' :: ts) (v :: vs)

/-- Names and values with commas between them. -/
inductive MembersText : List Char → List (JsonText × Json) → Prop
  | last {k t : List Char} {key : JsonText} {v : Json} (hkey : NameText k key) (h : IsTextOf t v) :
      MembersText (k ++ ':' :: t) [(key, v)]
  | more {k t ts : List Char} {key : JsonText} {v : Json} {ms : List (JsonText × Json)} (hkey : NameText k key)
      (h : IsTextOf t v) (hmore : MembersText ts ms) : MembersText (k ++ ':' :: (t ++ ',' :: ts)) ((key, v) :: ms)

end

/-! ### Single steps -/

/-- Blanks in front of a value are skipped. -/
theorem readValue_skipBlanks (n : Nat) (cs : List Char) : readValue n (skipBlanks cs) = readValue n cs := by
  cases n with
  | zero => rw [readValue, readValue]
  | succ n => rw [readValue, readValue, skipBlanks_skipBlanks]

theorem readItems_skipBlanks (n : Nat) (cs : List Char) : readItems n (skipBlanks cs) = readItems n cs := by
  cases n with
  | zero => rw [readItems, readItems]
  | succ n => rw [readItems, readItems, readValue_skipBlanks]

theorem readMembers_skipBlanks (n : Nat) (cs : List Char) : readMembers n (skipBlanks cs) = readMembers n cs := by
  cases n with
  | zero => rw [readMembers, readMembers]
  | succ n => rw [readMembers, readMembers, skipBlanks_skipBlanks]

/-- A number begins with none of the characters that begin another value, and with no blank. -/
theorem ne_of_number_head {c : Char} (h : c = '-' ∨ c.isDigit = true) :
    isBlank c = false ∧ c ∉ ['n', 't', 'f', '"', '[', ']', '\x7b'] := by
  rcases h with rfl | h
  · decide
  · constructor
    · cases hb : isBlank c with
      | false => rfl
      | true =>
        simp only [isBlank, Bool.or_eq_true, beq_iff_eq] at hb
        rcases hb with ((rfl | rfl) | rfl) | rfl
        all_goals exact absurd h (by decide)
    · intro hmem
      simp only [List.mem_cons, List.not_mem_nil, or_false] at hmem
      rcases hmem with rfl | rfl | rfl | rfl | rfl | rfl | rfl
      all_goals exact absurd h (by decide)

section

variable {n : Nat} {c : Char} {cs t r more rest : List Char} {v : Json}

theorem readValue_number {lexeme : List Char} (hc : c = '-' ∨ c.isDigit = true)
    (h : readNumber (c :: t) = some (lexeme, rest)) : readValue (n + 1) (c :: t) = some (number lexeme, rest) := by
  obtain ⟨hblank, hne⟩ := ne_of_number_head hc
  rw [readValue, skipBlanks_cons hblank]
  split
  case h_7 =>
    rw [h]
    rfl
  -- every other case needs a first character with which no number begins
  all_goals
    rename_i heq
    obtain ⟨rfl, -⟩ := List.cons.inj heq
    exact absurd (by decide) hne

theorem readValue_array {items : List Json} (hne : ∀ r, skipBlanks t ≠ ']' :: r)
    (h : readItems n t = some (items, rest)) : readValue (n + 1) ('[' :: t) = some (array items, rest) := by
  rw [readValue, skipBlanks_cons (by decide)]
  simp only
  rw [readItems_skipBlanks, h]
  rfl

theorem readValue_object {members : List (JsonText × Json)} (hne : ∀ r, skipBlanks t ≠ '\x7d' :: r)
    (h : readMembers n t = some (members, rest)) : readValue (n + 1) ('\x7b' :: t) = some (object members, rest) := by
  rw [readValue, skipBlanks_cons (by decide)]
  simp only
  rw [readMembers_skipBlanks, h]
  rfl

/-- An item with a bracket behind it is the last one of its array. -/
theorem readItems_last (h : readValue n cs = some (v, r)) (hr : skipBlanks r = ']' :: rest) :
    readItems (n + 1) cs = some ([v], rest) := by
  rw [readItems, h]
  simp [hr]

/-- An item with a comma behind it stands in front of others. -/
theorem readItems_more {vs : List Json} (h : readValue n cs = some (v, r)) (hr : skipBlanks r = ',' :: more)
    (hmore : readItems n more = some (vs, rest)) : readItems (n + 1) cs = some (v :: vs, rest) := by
  rw [readItems, h]
  simp [hr, hmore]

variable {key : JsonText}

theorem readMembers_last (hcs : skipBlanks cs = '"' :: t) (hkey : readText t = some (key, r))
    (hr : skipBlanks r = ':' :: more) {r' : List Char} (h : readValue n more = some (v, r'))
    (hr' : skipBlanks r' = '\x7d' :: rest) : readMembers (n + 1) cs = some ([(key, v)], rest) := by
  rw [readMembers]
  simp [hcs, hkey, hr, h, hr']

theorem readMembers_more {ms : List (JsonText × Json)} (hcs : skipBlanks cs = '"' :: t) (hkey : readText t = some (key, r))
    (hr : skipBlanks r = ':' :: more) {r' more' : List Char} (h : readValue n more = some (v, r'))
    (hr' : skipBlanks r' = ',' :: more') (hmore : readMembers n more' = some (ms, rest)) :
    readMembers (n + 1) cs = some ((key, v) :: ms, rest) := by
  rw [readMembers]
  simp [hcs, hkey, hr, h, hr', hmore]

end

/-! ### A text of the grammar is read -/

theorem delimited_append {b rest : List Char} (hb : Blanks b) (h : Delimited rest) : Delimited (b ++ rest) := by
  cases b with
  | nil => exact h
  | cons c b =>
    refine delimited_cons ?_ _
    have hc : isBlank c = true := (Bool.and_eq_true_iff.1 hb).1
    simp only [isBlank, Bool.or_eq_true, beq_iff_eq] at hc
    rcases hc with ((rfl | rfl) | rfl) | rfl
    all_goals decide

/-- A value begins with a character that is no blank and does not end an array. -/
theorem ValueText.exists_cons {t : List Char} {v : Json} (h : ValueText t v) :
    ∃ c r, t = c :: r ∧ isBlank c = false ∧ c ≠ ']' := by
  cases h with
  | null => exact ⟨_, _, rfl, by decide, by decide⟩
  | yes => exact ⟨_, _, rfl, by decide, by decide⟩
  | no => exact ⟨_, _, rfl, by decide, by decide⟩
  | number h =>
    obtain ⟨c, r, rfl, hc⟩ := h.exists_cons
    obtain ⟨hblank, hne⟩ := ne_of_number_head hc
    exact ⟨c, r, rfl, hblank, fun he => hne (by simp [he])⟩
  | string h =>
    obtain ⟨-⟩ := h
    exact ⟨_, _, rfl, by decide, by decide⟩
  | noItems _ => exact ⟨_, _, rfl, by decide, by decide⟩
  | array _ => exact ⟨_, _, rfl, by decide, by decide⟩
  | noMembers _ => exact ⟨_, _, rfl, by decide, by decide⟩
  | object _ => exact ⟨_, _, rfl, by decide, by decide⟩

/-- No bracket stands where an item begins. -/
theorem IsTextOf.skipBlanks_ne {t : List Char} {v : Json} (h : IsTextOf t v) (rest r : List Char) :
    skipBlanks (t ++ rest) ≠ ']' :: r := by
  obtain ⟨hb, h, -⟩ := h
  obtain ⟨c, t, rfl, hblank, hc⟩ := h.exists_cons
  rw [List.append_assoc, List.append_assoc, skipBlanks_append hb, List.cons_append, skipBlanks_cons hblank]
  exact fun he => hc (List.cons.inj he).1

theorem ItemsText.skipBlanks_ne {t : List Char} {items : List Json} (h : ItemsText t items) (rest r : List Char) :
    skipBlanks (t ++ rest) ≠ ']' :: r := by
  cases h with
  | last h => exact h.skipBlanks_ne rest r
  | more h _ =>
    rw [List.append_assoc]
    exact h.skipBlanks_ne _ r

/-- A name is read up to its colon. -/
theorem NameText.read {k : List Char} {key : JsonText} (h : NameText k key) (rest : List Char) :
    ∃ t r, skipBlanks (k ++ ':' :: rest) = '"' :: t ∧ readText t = some (key, r) ∧ skipBlanks r = ':' :: rest := by
  obtain @⟨b, t, b', key, hb, ⟨hunits⟩, hb'⟩ := h
  rename_i body units
  refine ⟨body ++ '"' :: (b' ++ ':' :: rest), b' ++ ':' :: rest, ?_, ?_, ?_⟩
  · simp only [List.append_assoc, List.cons_append, List.nil_append]
    rw [skipBlanks_append hb, skipBlanks_cons (by decide)]
  · rw [readText, hunits.readUnits]
    rfl
  · rw [skipBlanks_append hb', skipBlanks_cons (by decide)]

theorem MembersText.skipBlanks_eq {t : List Char} {members : List (JsonText × Json)} (h : MembersText t members)
    (rest : List Char) : ∃ r, skipBlanks (t ++ rest) = '"' :: r := by
  cases h with
  | last hkey _ =>
    obtain ⟨r, -, hr, -⟩ := hkey.read (_ ++ rest)
    rw [List.append_assoc]
    exact ⟨r, hr⟩
  | more hkey _ _ =>
    obtain ⟨r, -, hr, -⟩ := hkey.read (_ ++ rest)
    rw [List.append_assoc]
    exact ⟨r, hr⟩

/-- What `n` steps read: the texts that are short enough, whatever stands behind them that does not go on them. -/
structure ReadsTexts (n : Nat) : Prop where
  value : ∀ t v rest, ValueText t v → 2 * t.length ≤ n → Delimited rest → readValue n (t ++ rest) = some (v, rest)
  items : ∀ t items rest, ItemsText t items → 2 * t.length < n →
    readItems n (t ++ ']' :: rest) = some (items, rest)
  members : ∀ t members rest, MembersText t members → 2 * t.length < n →
    readMembers n (t ++ '\x7d' :: rest) = some (members, rest)

/-- A value with blanks around it is read up to what follows. -/
theorem ReadsTexts.read {n : Nat} (hn : ReadsTexts n) {t rest : List Char} {v : Json} (h : IsTextOf t v)
    (hlen : 2 * t.length ≤ n) (hrest : Delimited rest) :
    ∃ r, readValue n (t ++ rest) = some (v, r) ∧ skipBlanks r = skipBlanks rest := by
  obtain @⟨b, t, b', v, hb, h, hb'⟩ := h
  simp only [List.length_append] at hlen
  refine ⟨b' ++ rest, ?_, skipBlanks_append hb' rest⟩
  rw [List.append_assoc, List.append_assoc, ← readValue_skipBlanks, skipBlanks_append hb, readValue_skipBlanks]
  exact hn.value t v _ h (by omega) (delimited_append hb' hrest)

/-- One step more reads the values whose parts are read. -/
theorem ReadsTexts.readValue_succ {n : Nat} (hn : ReadsTexts n) {t rest : List Char} {v : Json} (h : ValueText t v)
    (hlen : 2 * t.length ≤ n + 1) (hrest : Delimited rest) : readValue (n + 1) (t ++ rest) = some (v, rest) := by
  cases h with
  | null => rfl
  | yes => rfl
  | no => rfl
  | number h =>
    have hread := h.read hrest
    obtain ⟨c, t, rfl, hc⟩ := h.exists_cons
    exact readValue_number hc hread
  | string h =>
    obtain ⟨hunits⟩ := h
    rename_i body units
    rw [List.append_assoc, List.cons_append, readValue, skipBlanks_cons (by decide)]
    show (readText (body ++ '"' :: rest)).map _ = _
    rw [readText, hunits.readUnits]
    rfl
  | noItems hb =>
    simp only [List.cons_append, List.append_assoc, List.nil_append]
    rw [readValue, skipBlanks_cons (by decide)]
    simp only [skipBlanks_append hb, skipBlanks_cons (show isBlank ']' = false by decide)]
  | array h =>
    simp only [List.length_cons, List.length_append, List.length_nil] at hlen
    simp only [List.cons_append, List.append_assoc, List.nil_append]
    exact readValue_array (h.skipBlanks_ne _) (hn.items _ _ rest h (by omega))
  | noMembers hb =>
    simp only [List.cons_append, List.append_assoc, List.nil_append]
    rw [readValue, skipBlanks_cons (by decide)]
    simp only [skipBlanks_append hb, skipBlanks_cons (show isBlank '\x7d' = false by decide)]
  | object h =>
    simp only [List.length_cons, List.length_append, List.length_nil] at hlen
    simp only [List.cons_append, List.append_assoc, List.nil_append]
    refine readValue_object ?_ (hn.members _ _ rest h (by omega))
    intro r
    obtain ⟨r', hr'⟩ := h.skipBlanks_eq ('\x7d' :: rest)
    rw [hr']
    exact fun he => absurd (List.cons.inj he).1 (by decide)

/-- One step more reads the values between brackets. -/
theorem ReadsTexts.readItems_succ {n : Nat} (hn : ReadsTexts n) {t : List Char} {items : List Json}
    (h : ItemsText t items) (hlen : 2 * t.length < n + 1) (rest : List Char) :
    readItems (n + 1) (t ++ ']' :: rest) = some (items, rest) := by
  cases h with
  | last h =>
    obtain ⟨r, hread, hr⟩ := hn.read h (by omega) (delimited_cons (c := ']') (by decide) rest)
    exact readItems_last hread hr
  | more h hmore =>
    simp only [List.length_append, List.length_cons] at hlen
    rw [List.append_assoc, List.cons_append]
    obtain ⟨r, hread, hr⟩ := hn.read h (by omega) (delimited_cons (c := ',') (by decide) _)
    exact readItems_more hread hr (hn.items _ _ rest hmore (by omega))

/-- One step more reads the members between braces. -/
theorem ReadsTexts.readMembers_succ {n : Nat} (hn : ReadsTexts n) {t : List Char} {members : List (JsonText × Json)}
    (h : MembersText t members) (hlen : 2 * t.length < n + 1) (rest : List Char) :
    readMembers (n + 1) (t ++ '\x7d' :: rest) = some (members, rest) := by
  cases h with
  | last hkey h =>
    simp only [List.length_append, List.length_cons] at hlen
    rw [List.append_assoc, List.cons_append]
    obtain ⟨body, r, hquote, hread, hr⟩ := hkey.read (_ ++ '\x7d' :: rest)
    obtain ⟨r', hread', hr'⟩ := hn.read h (by omega) (delimited_cons (c := '\x7d') (by decide) rest)
    exact readMembers_last hquote hread hr hread' hr'
  | @more k t ts key v ms hkey h hmore =>
    simp only [List.length_append, List.length_cons] at hlen
    simp only [List.append_assoc, List.cons_append]
    obtain ⟨body, r, hquote, hread, hr⟩ := hkey.read (t ++ ',' :: (ts ++ '\x7d' :: rest))
    obtain ⟨r', hread', hr'⟩ := hn.read h (by omega) (delimited_cons (c := ',') (by decide) _)
    exact readMembers_more hquote hread hr hread' hr' (hn.members _ _ rest hmore (by omega))

theorem readsTexts (n : Nat) : ReadsTexts n := by
  induction n with
  | zero =>
    refine ⟨?_, ?_, ?_⟩
    · intro t v rest h hlen
      obtain ⟨c, r, rfl, -⟩ := h.exists_cons
      simp at hlen
    · intro t items rest _ hlen
      omega
    · intro t members rest _ hlen
      omega
  | succ n ih =>
    refine ⟨?_, ?_, ?_⟩
    · exact fun t v rest => ih.readValue_succ
    · exact fun t items rest h hlen => ih.readItems_succ h hlen rest
    · exact fun t members rest h hlen => ih.readMembers_succ h hlen rest

/-! ### What is read is a text of the grammar -/

theorem exists_stringText {cs r : List Char} {s : JsonText} (h : readText cs = some (s, r)) :
    ∃ t, StringText ('"' :: t) s ∧ cs = t ++ r := by
  obtain ⟨⟨units, r'⟩, hunits, he⟩ := Option.bind_eq_some_iff.1 h
  cases he
  obtain ⟨body, hbody, rfl⟩ := exists_unitsText hunits
  exact ⟨body ++ ['"'], .quoted hbody, by rw [List.append_assoc, List.singleton_append]⟩

theorem exists_nameText {cs t r rest : List Char} {key : JsonText} (hcs : skipBlanks cs = '"' :: t)
    (hkey : readText t = some (key, r)) (hr : skipBlanks r = ':' :: rest) : ∃ k, NameText k key ∧ cs = k ++ ':' :: rest := by
  obtain ⟨b, hb, hcs'⟩ := exists_blanks cs
  obtain ⟨b', hb', hr'⟩ := exists_blanks r
  obtain ⟨t', ht, rfl⟩ := exists_stringText hkey
  refine ⟨_, .blanks hb ht hb', ?_⟩
  rw [hcs', hcs, hr', hr]
  simp

/-- What `n` steps read is a text of the grammar, up to where they stop. -/
structure ReadsOnlyTexts (n : Nat) : Prop where
  value : ∀ cs v r, readValue n cs = some (v, r) → ∃ b t, Blanks b ∧ ValueText t v ∧ cs = b ++ (t ++ r)
  items : ∀ cs items r, readItems n cs = some (items, r) → ∃ t, ItemsText t items ∧ cs = t ++ ']' :: r
  members : ∀ cs members r, readMembers n cs = some (members, r) → ∃ t, MembersText t members ∧ cs = t ++ '\x7d' :: r

theorem ReadsOnlyTexts.readValue_succ {n : Nat} (hn : ReadsOnlyTexts n) {cs r : List Char} {v : Json}
    (h : readValue (n + 1) cs = some (v, r)) : ∃ b t, Blanks b ∧ ValueText t v ∧ cs = b ++ (t ++ r) := by
  obtain ⟨b, hb, hcs⟩ := exists_blanks cs
  -- behind the blanks stands the text of the value
  suffices ∃ t, ValueText t v ∧ skipBlanks cs = t ++ r by
    obtain ⟨t, ht, hskip⟩ := this
    exact ⟨b, t, hb, ht, by rw [← hskip, ← hcs]⟩
  rw [readValue] at h
  split at h
  · rename_i heq
    cases h
    exact ⟨_, .null, heq⟩
  · rename_i heq
    cases h
    exact ⟨_, .yes, heq⟩
  · rename_i heq
    cases h
    exact ⟨_, .no, heq⟩
  · rename_i cs' heq
    obtain ⟨⟨s, r'⟩, hread, he⟩ := Option.map_eq_some_iff.1 h
    cases he
    obtain ⟨t, ht, rfl⟩ := exists_stringText hread
    exact ⟨_, .string ht, heq⟩
  · rename_i cs' heq
    obtain ⟨b', hb', hcs'⟩ := exists_blanks cs'
    split at h
    · rename_i heq'
      cases h
      refine ⟨_, .noItems hb', ?_⟩
      rw [heq, hcs', heq']
      simp
    · obtain ⟨⟨items, r'⟩, hread, he⟩ := Option.map_eq_some_iff.1 h
      cases he
      rw [readItems_skipBlanks] at hread
      obtain ⟨t, ht, rfl⟩ := hn.items _ _ _ hread
      exact ⟨_, .array ht, by rw [heq]; simp⟩
  · rename_i cs' heq
    obtain ⟨b', hb', hcs'⟩ := exists_blanks cs'
    split at h
    · rename_i heq'
      cases h
      refine ⟨_, .noMembers hb', ?_⟩
      rw [heq, hcs', heq']
      simp
    · obtain ⟨⟨members, r'⟩, hread, he⟩ := Option.map_eq_some_iff.1 h
      cases he
      rw [readMembers_skipBlanks] at hread
      obtain ⟨t, ht, rfl⟩ := hn.members _ _ _ hread
      exact ⟨_, .object ht, by rw [heq]; simp⟩
  · obtain ⟨⟨lexeme, r'⟩, hread, he⟩ := Option.map_eq_some_iff.1 h
    cases he
    obtain ⟨hnumber, hcs'⟩ := numberText_of_read hread
    exact ⟨lexeme, .number hnumber, hcs'⟩

/-- What is read up to a mark is a text with blanks around it. -/
theorem ReadsOnlyTexts.isTextOf {n : Nat} (hn : ReadsOnlyTexts n) {cs r rest : List Char} {v : Json}
    (h : readValue n cs = some (v, r)) (hr : skipBlanks r = rest) : ∃ t, IsTextOf t v ∧ cs = t ++ rest := by
  obtain ⟨b, t, hb, ht, rfl⟩ := hn.value cs v r h
  obtain ⟨b', hb', hr'⟩ := exists_blanks r
  refine ⟨_, .blanks hb ht hb', ?_⟩
  rw [← hr]
  simp only [List.append_assoc]
  rw [← hr']

theorem ReadsOnlyTexts.readItems_succ {n : Nat} (hn : ReadsOnlyTexts n) {cs r : List Char} {items : List Json}
    (h : readItems (n + 1) cs = some (items, r)) : ∃ t, ItemsText t items ∧ cs = t ++ ']' :: r := by
  rw [readItems] at h
  obtain ⟨⟨v, r₁⟩, hread, h⟩ := Option.bind_eq_some_iff.1 h
  simp only at h
  split at h
  · rename_i more hr₁
    obtain ⟨⟨vs, r₂⟩, hmore, h⟩ := Option.bind_eq_some_iff.1 h
    cases h
    obtain ⟨t, ht, rfl⟩ := hn.isTextOf hread hr₁
    obtain ⟨ts, hts, rfl⟩ := hn.items _ _ _ hmore
    exact ⟨_, .more ht hts, by simp⟩
  · rename_i rest hr₁
    cases h
    obtain ⟨t, ht, rfl⟩ := hn.isTextOf hread hr₁
    exact ⟨t, .last ht, rfl⟩
  · cases h

theorem ReadsOnlyTexts.readMembers_succ {n : Nat} (hn : ReadsOnlyTexts n) {cs r : List Char}
    {members : List (JsonText × Json)} (h : readMembers (n + 1) cs = some (members, r)) :
    ∃ t, MembersText t members ∧ cs = t ++ '\x7d' :: r := by
  rw [readMembers] at h
  split at h
  · rename_i cs' hcs
    obtain ⟨⟨key, r₁⟩, hkey, h⟩ := Option.bind_eq_some_iff.1 h
    simp only at h
    split at h
    · rename_i r₂ hr₁
      obtain ⟨k, hk, rfl⟩ := exists_nameText hcs hkey hr₁
      obtain ⟨⟨v, r₃⟩, hread, h⟩ := Option.bind_eq_some_iff.1 h
      simp only at h
      split at h
      · rename_i more hr₃
        obtain ⟨⟨ms, r₄⟩, hmore, h⟩ := Option.bind_eq_some_iff.1 h
        cases h
        obtain ⟨t, ht, rfl⟩ := hn.isTextOf hread hr₃
        obtain ⟨ts, hts, rfl⟩ := hn.members _ _ _ hmore
        exact ⟨_, .more hk ht hts, by simp⟩
      · rename_i rest hr₃
        cases h
        obtain ⟨t, ht, rfl⟩ := hn.isTextOf hread hr₃
        exact ⟨_, .last hk ht, by simp⟩
      · cases h
    · cases h
  · cases h

theorem readsOnlyTexts (n : Nat) : ReadsOnlyTexts n := by
  induction n with
  | zero =>
    refine ⟨?_, ?_, ?_⟩
    · intro cs v r h
      rw [readValue] at h
      cases h
    · intro cs items r h
      rw [readItems] at h
      cases h
    · intro cs members r h
      rw [readMembers] at h
      cases h
  | succ n ih =>
    refine ⟨?_, ?_, ?_⟩
    · exact fun cs v r => ih.readValue_succ
    · exact fun cs items r => ih.readItems_succ
    · exact fun cs members r => ih.readMembers_succ

/-! ### The reader -/

/-- The reader accepts the texts of the grammar, each with its value, and nothing else. -/
theorem read?_eq_some_iff {cs : List Char} {v : Json} : read? cs = some v ↔ IsTextOf cs v := by
  constructor
  · intro h
    unfold read? at h
    split at h
    · rename_i v' r hread
      split at h
      · rename_i hr
        cases h
        obtain ⟨t, ht, rfl⟩ := (readsOnlyTexts _).isTextOf hread hr
        rw [List.append_nil]
        exact ht
      · cases h
    · cases h
  · intro h
    obtain ⟨r, hread, hr⟩ := (readsTexts (2 * cs.length + 2)).read h (by omega) delimited_nil
    rw [List.append_nil] at hread
    rw [read?, hread]
    exact if_pos hr

/-- A text has one value. -/
theorem IsTextOf.unique {cs : List Char} {v w : Json} (hv : IsTextOf cs v) (hw : IsTextOf cs w) : v = w :=
  Option.some.inj ((read?_eq_some_iff.2 hv).symm.trans (read?_eq_some_iff.2 hw))

end RetryPolicy.Json
