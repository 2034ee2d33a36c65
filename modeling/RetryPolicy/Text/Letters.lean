/-!
# Letter case and character classes of header text

Header grammars are written in ASCII: a gap is one of six ASCII spaces, a word character is an ASCII letter, a digit
or an underscore, and names match whatever the case of their ASCII letters. Characters outside ASCII are in no class
and match only themselves (`sameName_iff`).
-/

namespace RetryPolicy.Text

/-- Tab, line feed, vertical tab, form feed, carriage return and space. -/
def isGap (c : Char) : Bool :=
  ['\t', '\n', '\x0b', '\x0c', '\r', ' '].contains c

/-- An ASCII letter, a digit or an underscore. -/
def isWord (c : Char) : Bool :=
  c.isAlphanum || c == '_'

/-- The text with its ASCII capitals written small. -/
def lower (cs : List Char) : List Char :=
  cs.map Char.toLower

/-- The two texts differ at most in the case of ASCII letters. -/
def sameName (a b : List Char) : Bool :=
  lower a == lower b

theorem isWord_of_isDigit {c : Char} (h : c.isDigit = true) : isWord c = true := by
  simp [isWord, Char.isAlphanum, h]

theorem all_isWord_of_all_isDigit {v : List Char} (hp : v.all Char.isDigit = true) : v.all isWord = true :=
  List.all_eq_true.2 fun c hc => isWord_of_isDigit (List.all_eq_true.1 hp c hc)

/-- No gap stands in a word. -/
theorem isWord_eq_false_of_isGap {c : Char} (h : isGap c = true) : isWord c = false := by
  simp only [isGap, List.contains_iff_mem, List.mem_cons, List.not_mem_nil, or_false] at h
  rcases h with rfl | rfl | rfl | rfl | rfl | rfl <;> decide

/-- No gap stands in a number. -/
theorem isDigit_eq_false_of_isGap {c : Char} (h : isGap c = true) : c.isDigit = false := by
  have := isWord_eq_false_of_isGap h
  cases hd : c.isDigit with
  | false => rfl
  | true => simp [isWord_of_isDigit hd] at this

/-- No character of a word is a gap. -/
theorem isGap_eq_false_of_isWord {c : Char} (h : isWord c = true) : isGap c = false := by
  cases hg : isGap c with
  | false => rfl
  | true => simp [isWord_eq_false_of_isGap hg] at h

theorem sameName_iff (a b : List Char) : sameName a b = true ↔ lower a = lower b := by
  simp [sameName]

/-- A name is compared with two spellings of another alike. -/
theorem sameName_congr {a b : List Char} (h : sameName a b = true) (name : List Char) :
    sameName name a = sameName name b := by
  rw [sameName, sameName, (sameName_iff a b).1 h]

theorem length_eq_of_sameName {a b : List Char} (h : sameName a b = true) : a.length = b.length := by
  have hl := congrArg List.length ((sameName_iff a b).1 h)
  rwa [lower, lower, List.length_map, List.length_map] at hl

theorem toLower_eq_self {c : Char} (h : ¬c.isUpper = true) : c.toLower = c :=
  dif_neg fun hc => h (decide_eq_true hc)

/-- A capital is a letter when it is written small: its code grows by 32. -/
theorem isAlpha_toLower_of_isUpper {c : Char} (h : c.isUpper = true) : c.toLower.isAlpha = true := by
  delta Char.isUpper at h
  rw [decide_eq_true_eq] at h
  have small : c.toLower.isLower = true := by
    delta Char.toLower Char.isLower
    rw [dif_pos h, Bool.and_eq_true, decide_eq_true_eq, decide_eq_true_eq]
    simp only [ge_iff_le, UInt32.le_iff_toNat_le, UInt32.toNat_add, Char.reduceVal, UInt32.reduceSub,
      UInt32.reduceToNat] at h ⊢
    omega
  exact (congrArg (c.toLower.isUpper || ·) small).trans (Bool.or_true _)

/-- A class that all ASCII letters belong to does not tell their case. -/
theorem toLower_of_letters {p : Char → Bool} (hp : ∀ c, c.isAlpha = true → p c = true) (c : Char) :
    p c.toLower = p c := by
  by_cases hc : c.isUpper = true
  · have ha : c.isAlpha = true := (congrArg (· || c.isLower) hc).trans (Bool.true_or _)
    rw [hp c ha, hp c.toLower (isAlpha_toLower_of_isUpper hc)]
  · rw [toLower_eq_self hc]

/-- Texts that differ in the case of letters alone belong to such a class both or neither. -/
theorem all_eq_of_sameName {p : Char → Bool} (hp : ∀ c, c.isAlpha = true → p c = true) {a b : List Char}
    (h : sameName a b = true) : a.all p = b.all p := by
  have small : ∀ cs : List Char, (lower cs).all p = cs.all p := by
    intro cs
    rw [lower, List.all_map]
    exact congrArg (List.all cs) (funext (toLower_of_letters hp))
  rw [← small a, ← small b, (sameName_iff a b).1 h]

end RetryPolicy.Text
