import Mathlib.Data.List.Forall2
import RetryPolicy.Proofs.Shapes

/-!
# What can be told from quoted text

Between double quotes a character is written as itself, unless it is a double quote, a backslash or a control, or else behind a
backslash as a sign or as its code point in braces (`Escaped`). No such form is the beginning of another, so that of a line that
begins with quoted text there is one way only to say what is quoted and where it ends (`quoted_append_inj`), and no quoted text
holds a control character (`plain_quoted`).
-/

namespace RetryPolicy.Text

/-! ## Control characters -/

/-- A C0 control, the delete character or a C1 control. -/
def isControl (c : Char) : Bool :=
  c.toNat ≤ 0x1f || (0x7f ≤ c.toNat && c.toNat ≤ 0x9f)

/-- The text has no control character. -/
def Plain (s : String) : Prop :=
  s.toList.any isControl = false

instance (s : String) : Decidable (Plain s) :=
  inferInstanceAs (Decidable (s.toList.any isControl = false))

theorem plain_ofList {cs : List Char} (h : cs.any isControl = false) : Plain (String.ofList cs) := by
  rwa [Plain, String.toList_ofList]

theorem plain_append_iff {s t : String} : Plain (s ++ t) ↔ Plain s ∧ Plain t := by
  rw [Plain, String.toList_append, List.any_append, Bool.or_eq_false_iff]
  exact Iff.rfl

theorem plain_append {s t : String} (hs : Plain s) (ht : Plain t) : Plain (s ++ t) :=
  plain_append_iff.2 ⟨hs, ht⟩

theorem isControl_eq_false_of_isWord (c : Char) (h : isWord c = true) : isControl c = false := by
  obtain ⟨h1, h2⟩ := toNat_of_isWord h
  simp only [isControl, Bool.or_eq_false_iff, Bool.and_eq_false_iff, decide_eq_false_iff_not]
  omega

theorem isControl_eq_false_of_isDigit (c : Char) (h : c.isDigit = true) : isControl c = false :=
  isControl_eq_false_of_isWord c (isWord_of_isDigit h)

/-- A number has no control character. -/
theorem plain_of_all_isDigit {cs : List Char} (h : cs.all Char.isDigit = true) : Plain (String.ofList cs) :=
  plain_ofList (any_eq_false_of_all isControl_eq_false_of_isDigit h)

theorem isControl_eq_false_of_printable {c : Char} (h : isUnprintable c = false) : isControl c = false := by
  rw [Bool.eq_false_iff]
  intro hc
  simp only [isControl, Bool.or_eq_true, Bool.and_eq_true, decide_eq_true_eq] at hc
  rw [isUnprintable_of_control hc] at h
  cases h

/-! ## Hexadecimal digits -/

theorem exists_digitChar_of_mem_toDigits {n : Nat} {c : Char} (h : c ∈ Nat.toDigits 16 n) :
    ∃ d < 16, c = Nat.digitChar d := by
  induction n using Nat.strongRecOn with
  | ind n ih =>
    rw [Nat.toDigits_eq_if (by decide)] at h
    split at h
    · rename_i hn
      exact ⟨n, hn, List.mem_singleton.1 h⟩
    · rcases List.mem_append.1 h with h | h
      · exact ih (n / 16) (by omega) h
      · exact ⟨n % 16, Nat.mod_lt n (by decide), List.mem_singleton.1 h⟩

theorem isWord_of_mem_toDigits {n : Nat} {c : Char} (h : c ∈ Nat.toDigits 16 n) : isWord c = true := by
  have all : ∀ d < 16, isWord (Nat.digitChar d) = true := by decide
  obtain ⟨d, hd, rfl⟩ := exists_digitChar_of_mem_toDigits h
  exact all d hd

/-- Numbers with the same digits are the same. -/
theorem toDigits_injective {m n : Nat} (h : Nat.toDigits 16 m = Nat.toDigits 16 n) : m = n := by
  have digit : ∀ a < 16, ∀ b < 16, Nat.digitChar a = Nat.digitChar b → a = b := by decide
  -- a number of one digit does not have the digits of a longer one
  have short : ∀ a b : Nat, ¬(Nat.toDigits 16 (b / 16) ++ [Nat.digitChar (b % 16)] = [Nat.digitChar a]) := by
    intro a b hab
    rcases List.append_eq_singleton_iff.1 hab with ⟨hnil, -⟩ | ⟨-, hnil⟩
    · exact Nat.toDigits_ne_nil hnil
    · cases hnil
  induction m using Nat.strongRecOn generalizing n with
  | ind m ih =>
    rw [Nat.toDigits_eq_if (by decide), Nat.toDigits_eq_if (n := n) (by decide)] at h
    by_cases hm : m < 16
    · by_cases hn : n < 16
      · rw [if_pos hm, if_pos hn, List.cons.injEq] at h
        exact digit m hm n hn h.1
      · rw [if_pos hm, if_neg hn] at h
        exact absurd h.symm (short m n)
    · by_cases hn : n < 16
      · rw [if_neg hm, if_pos hn] at h
        exact absurd h (short n m)
      · rw [if_neg hm, if_neg hn] at h
        obtain ⟨hfront, hlast⟩ := List.append_inj' h rfl
        have hquotient := ih (m / 16) (by omega) hfront
        have hremainder := digit _ (Nat.mod_lt m (by decide)) _ (Nat.mod_lt n (by decide)) (List.cons.inj hlast).1
        omega

/-- Digits that are followed by a sign that is no digit are those of one number only. -/
theorem toDigits_append_inj {m n : Nat} {sign : Char} {r s : List Char} (hsign : isWord sign = false)
    (h : Nat.toDigits 16 m ++ sign :: r = Nat.toDigits 16 n ++ sign :: s) : m = n ∧ r = s := by
  have word : ∀ k, (Nat.toDigits 16 k).all isWord = true := fun k => List.all_eq_true.2 fun _ => isWord_of_mem_toDigits
  have stop : ∀ t, ∀ c ∈ (sign :: t).head?, isWord c = false := by
    rintro t _ ⟨⟩
    exact hsign
  have hm := takeWhile_dropWhile_iff.2 ⟨rfl, word m, stop r⟩
  have hn := takeWhile_dropWhile_iff.2 ⟨rfl, word n, stop s⟩
  rw [h] at hm
  have hdigits := hm.1.symm.trans hn.1
  have hrest := hm.2.symm.trans hn.2
  exact ⟨toDigits_injective hdigits, (List.cons.inj hrest).2⟩

/-! ## How a character is written -/

/-- The characters that are written with a backslash and a sign, by their signs. -/
def signs : List (Char × Char) :=
  [('0', '\x00'), ('t', '\t'), ('r', '\r'), ('n', '\n'), ('\\', '\\'), ('"', '"')]

/-- How a character may stand between double quotes. -/
inductive Escaped : Char → List Char → Prop
  /-- As it is, if it neither closes the quotes nor escapes what follows nor is a control. -/
  | self {c : Char} : c ≠ '"' → c ≠ '\\' → isControl c = false → Escaped c [c]
  /-- Behind a backslash, by its sign. -/
  | sign {c s : Char} : (s, c) ∈ signs → Escaped c ['\\', s]
  /-- Behind a backslash, by its code point. -/
  | code (c : Char) : Escaped c (codePoint c)

/-- Each character is written in one of these ways. -/
theorem escaped_escaped (c : Char) : Escaped c (escaped c) := by
  unfold escaped
  -- the six characters that have signs
  iterate 6
    split
    · subst c
      exact .sign (by decide)
  split
  · exact .code c
  · rename_i hbackslash hquote hprintable
    rw [Bool.or_eq_true, not_or, Bool.not_eq_true, Bool.not_eq_true] at hprintable
    exact .self hquote hbackslash (isControl_eq_false_of_printable hprintable.2)

namespace Escaped

variable {c d : Char} {w x : List Char}

/-- A sign stands for one character. -/
theorem sign_inj {s : Char} (hc : (s, c) ∈ signs) (hd : (s, d) ∈ signs) : c = d := by
  have all : ∀ p ∈ signs, ∀ q ∈ signs, p.1 = q.1 → p.2 = q.2 := by decide
  exact all _ hc _ hd rfl

/-- No sign looks like the beginning of a code point. -/
theorem sign_ne_u {s : Char} (hc : (s, c) ∈ signs) : s ≠ 'u' := by
  have all : ∀ p ∈ signs, p.1 ≠ 'u' := by decide
  exact all _ hc

/-- No way to write a character closes the quotes. -/
theorem head_ne_quote (h : Escaped c w) (r : List Char) {s : List Char} : w ++ r ≠ '"' :: s := by
  intro heq
  cases h with
  | self hquote _ _ => exact hquote (List.cons.inj heq).1
  | sign _ => exact absurd (List.cons.inj heq).1 (by decide)
  | code => exact absurd (List.cons.inj heq).1 (by decide)

/-- Whatever follows, there is one way only to take the first character from an escaped text. -/
theorem append_inj (hc : Escaped c w) (hd : Escaped d x) {r s : List Char} (h : w ++ r = x ++ s) : c = d ∧ r = s := by
  cases hc with
  | self _ hbackslash _ =>
    cases hd with
    | self _ _ _ => exact List.cons.inj h
    | sign _ => exact absurd (List.cons.inj h).1 hbackslash
    | code => exact absurd (List.cons.inj h).1 hbackslash
  | sign hc =>
    cases hd with
    | self _ hbackslash _ => exact absurd (List.cons.inj h).1.symm hbackslash
    | sign hd =>
      obtain ⟨hsign, hrest⟩ := List.cons.inj (List.cons.inj h).2
      exact ⟨sign_inj hc (hsign ▸ hd), hrest⟩
    | code => exact absurd (List.cons.inj (List.cons.inj h).2).1 (sign_ne_u hc)
  | code =>
    cases hd with
    | self _ hbackslash _ => exact absurd (List.cons.inj h).1.symm hbackslash
    | sign hd => exact absurd (List.cons.inj (List.cons.inj h).2).1.symm (sign_ne_u hd)
    | code =>
      have hdigits : Nat.toDigits 16 c.toNat ++ '\x7d' :: r = Nat.toDigits 16 d.toNat ++ '\x7d' :: s := by
        simpa [codePoint] using h
      obtain ⟨hpoint, hrest⟩ := toDigits_append_inj (by decide) hdigits
      exact ⟨Char.toNat_inj.1 hpoint, hrest⟩

/-- An escaped character has no control in it. -/
theorem any_isControl (h : Escaped c w) : w.any isControl = false := by
  cases h with
  | self _ _ hcontrol => simp [hcontrol]
  | sign hc =>
    have all : ∀ p ∈ signs, isControl p.1 = false := by decide
    have hslash : isControl '\\' = false := by decide
    simp [all _ hc, hslash]
  | code =>
    have hdigits : (Nat.toDigits 16 c.toNat).any isControl = false := by
      rw [List.any_eq_false]
      intro d hd
      rw [isControl_eq_false_of_isWord d (isWord_of_mem_toDigits hd)]
      exact Bool.false_ne_true
    have hmarks : ['\\', 'u', '\x7b', '\x7d'].any isControl = false := by decide
    simp only [List.any_cons, List.any_nil, Bool.or_false, Bool.or_eq_false_iff] at hmarks
    simp [codePoint, hdigits, hmarks]

end Escaped

/-! ## Quoted text -/

/-- The text between double quotes, with each of its characters in a form that neither closes the quotes nor is left open. -/
def Quotes (s shown : String) : Prop :=
  ∃ pieces, List.Forall₂ Escaped s.toList pieces ∧ shown = String.ofList ('"' :: pieces.flatten ++ ['"'])

theorem quotes_quoted (s : String) : Quotes s (quoted s) := by
  refine ⟨s.toList.map escaped, ?_, ?_⟩
  · rw [List.forall₂_map_right_iff, List.forall₂_same]
    intro c _
    exact escaped_escaped c
  · rw [quoted, escapedAll, List.flatMap_def]

/-- The closing quote of two texts is found in the same place, and what stands before it is the same text. -/
theorem pieces_append_inj {a b : List Char} {v w : List (List Char)} (ha : List.Forall₂ Escaped a v)
    (hb : List.Forall₂ Escaped b w) {r s : List Char} (h : v.flatten ++ '"' :: r = w.flatten ++ '"' :: s) : a = b ∧ r = s := by
  induction ha generalizing b w with
  | nil =>
    cases hb with
    | nil => exact ⟨rfl, (List.cons.inj h).2⟩
    | cons hd _ =>
      rw [List.flatten_cons, List.append_assoc] at h
      exact absurd h.symm (hd.head_ne_quote _)
  | cons hc _ ih =>
    cases hb with
    | nil =>
      rw [List.flatten_cons, List.append_assoc] at h
      exact absurd h (hc.head_ne_quote _)
    | cons hd hb =>
      rw [List.flatten_cons, List.flatten_cons, List.append_assoc, List.append_assoc] at h
      obtain ⟨rfl, hrest⟩ := hc.append_inj hd h
      obtain ⟨rfl, rfl⟩ := ih hb hrest
      exact ⟨rfl, rfl⟩

/-- Of a line that begins with quoted text it can be told what is quoted, and what follows. -/
theorem quoted_append_inj {s t rest other : String} (h : quoted s ++ rest = quoted t ++ other) : s = t ∧ rest = other := by
  obtain ⟨v, hs, hv⟩ := quotes_quoted s
  obtain ⟨w, ht, hw⟩ := quotes_quoted t
  have hlists := congrArg String.toList h
  rw [hv, hw, String.toList_append, String.toList_append, String.toList_ofList, String.toList_ofList] at hlists
  have hbody : v.flatten ++ '"' :: rest.toList = w.flatten ++ '"' :: other.toList := by simpa using hlists
  obtain ⟨htext, hrest⟩ := pieces_append_inj hs ht hbody
  exact ⟨String.toList_inj.1 htext, String.toList_inj.1 hrest⟩

theorem quoted_injective {s t : String} (h : quoted s = quoted t) : s = t := by
  have hline : quoted s ++ "" = quoted t ++ "" := by rw [h]
  exact (quoted_append_inj hline).1

/-- Quoted text has no control character, whatever is quoted. -/
theorem plain_quoted (s : String) : Plain (quoted s) := by
  apply plain_ofList
  have hbody : (escapedAll s.toList).any isControl = false := by
    rw [escapedAll, List.any_flatMap, List.any_eq_false]
    intro c _
    rw [(escaped_escaped c).any_isControl]
    exact Bool.false_ne_true
  have hquote : isControl '"' = false := by decide
  simp [hbody, hquote]

end RetryPolicy.Text
