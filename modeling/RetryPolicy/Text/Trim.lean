/-!
# Trimming

A header value is read without the white space around it. White space is Unicode's `White_Space` property, which holds
25 characters; what `trim` leaves neither begins nor ends with one of them. What is added around a text in white space
makes no difference (`trim_append`), since the two ends may be trimmed in either order.
-/

namespace RetryPolicy.Text

/-- The `White_Space` characters, as ranges of code points. -/
def whiteSpace : List (Nat × Nat) :=
  [(0x9, 0xd), (0x20, 0x20), (0x85, 0x85), (0xa0, 0xa0), (0x1680, 0x1680), (0x2000, 0x200a), (0x2028, 0x2029),
    (0x202f, 0x202f), (0x205f, 0x205f), (0x3000, 0x3000)]

/-- The character has the `White_Space` property. -/
def isWhiteSpace (c : Char) : Bool :=
  whiteSpace.any fun r => r.1 ≤ c.toNat && c.toNat ≤ r.2

/-- The text without the white space it begins with. -/
def trimStart (cs : List Char) : List Char :=
  cs.dropWhile isWhiteSpace

/-- The text without the white space it ends with. -/
def trimEnd (cs : List Char) : List Char :=
  (cs.reverse.dropWhile isWhiteSpace).reverse

/-- The text without the white space around it. -/
def trim (cs : List Char) : List Char :=
  trimEnd (trimStart cs)

@[simp] theorem trim_nil : trim [] = [] := rfl

/-- A text that begins with no white space keeps its front. -/
theorem trimStart_eq_self {cs : List Char} (h : ∀ c ∈ cs.head?, isWhiteSpace c = false) : trimStart cs = cs := by
  cases cs with
  | nil => rfl
  | cons c cs =>
    have hc := h c rfl
    rw [trimStart, List.dropWhile_cons, hc]
    rfl

/-- A text that ends with no white space keeps its end. -/
theorem trimEnd_eq_self {cs : List Char} (h : ∀ c ∈ cs.getLast?, isWhiteSpace c = false) : trimEnd cs = cs := by
  rw [← List.head?_reverse] at h
  have hs := trimStart_eq_self h
  rw [trimStart] at hs
  rw [trimEnd, hs, List.reverse_reverse]

/-- A text with no white space at its edges is trimmed already. -/
theorem trim_eq_self {cs : List Char} (hh : ∀ c ∈ cs.head?, isWhiteSpace c = false)
    (hl : ∀ c ∈ cs.getLast?, isWhiteSpace c = false) : trim cs = cs := by
  rw [trim, trimStart_eq_self hh, trimEnd_eq_self hl]

/-- White space in front of a text is not kept. -/
theorem trimStart_append {u : List Char} (hu : u.all isWhiteSpace = true) (cs : List Char) :
    trimStart (u ++ cs) = trimStart cs :=
  List.dropWhile_append_of_pos (List.all_eq_true.1 hu)

/-- White space behind a text is not kept. -/
theorem trimEnd_append {v : List Char} (hv : v.all isWhiteSpace = true) (cs : List Char) :
    trimEnd (cs ++ v) = trimEnd cs := by
  have hr : v.reverse.all isWhiteSpace = true := by rw [List.all_reverse, hv]
  have hd := trimStart_append hr cs.reverse
  rw [trimStart, trimStart] at hd
  rw [trimEnd, trimEnd, List.reverse_append, hd]

/-- A character stays in front of what is left of the rest; white space stays there only if something is left. -/
theorem trimEnd_cons (c : Char) (cs : List Char) :
    trimEnd (c :: cs) = if trimEnd cs = [] ∧ isWhiteSpace c = true then [] else c :: trimEnd cs := by
  rw [trimEnd, trimEnd, List.reverse_cons, List.dropWhile_append]
  cases hd : cs.reverse.dropWhile isWhiteSpace with
  | nil =>
    cases hc : isWhiteSpace c with
    | true => simp [hc]
    | false => simp [hc]
  | cons d ds => simp

/-- It does not matter at which end one begins. -/
theorem trimEnd_trimStart (cs : List Char) : trimEnd (trimStart cs) = trimStart (trimEnd cs) := by
  induction cs with
  | nil => rfl
  | cons c cs ih =>
    cases hc : isWhiteSpace c with
    | true =>
      have hfront : trimStart (c :: cs) = trimStart cs := List.dropWhile_cons_of_pos hc
      rw [hfront, ih, trimEnd_cons]
      by_cases hnil : trimEnd cs = []
      · rw [if_pos ⟨hnil, hc⟩, hnil]
      · rw [if_neg fun h => hnil h.1]
        exact (List.dropWhile_cons_of_pos hc).symm
    | false =>
      have hne : ¬isWhiteSpace c = true := Bool.eq_false_iff.1 hc
      have hkeep : ∀ r, trimStart (c :: r) = c :: r := fun _ => List.dropWhile_cons_of_neg hne
      rw [hkeep, trimEnd_cons, if_neg fun h => hne h.2, hkeep]

/-- White space around a text is trimmed with the rest. -/
theorem trim_append {u v : List Char} (hu : u.all isWhiteSpace = true) (hv : v.all isWhiteSpace = true)
    (cs : List Char) : trim (u ++ cs ++ v) = trim cs := by
  rw [trim, List.append_assoc, trimStart_append hu, trimEnd_trimStart, trimEnd_append hv, ← trimEnd_trimStart, trim]

end RetryPolicy.Text
