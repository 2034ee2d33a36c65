import RetryPolicy.StatusTable

/-!
# Tables and the statuses they list

A table is made from a mode and a list, and it can be asked for the list of what it retries. `table_of_list_is_exact` says what
the way in comes to: the first status out of range is the error; without one the table retries what is listed and what the
mode retries by default (`Mode.IsDefault`, row by row), and nothing else. `table_is_what_it_lists` is about the way back:
a table can be made again from the statuses that it lists, because tables that answer alike are the same
(`eq_of_contains`).
-/

namespace RetryPolicy

namespace Mode

/-- The defaults of the modes, row by row. -/
inductive IsDefault : Mode → Int → Prop
  | informational {m : Mode} {c : Int} (hm : m ≠ only) (h : 100 ≤ c ∧ c ≤ 199) : IsDefault m c
  | redirection {m : Mode} {c : Int} (hm : m ≠ only) (h : 300 ≤ c ∧ c ≤ 399) : IsDefault m c
  /-- Four errors of the client pass by themselves. -/
  | passing {m : Mode} {c : Int} (hm : m ≠ only) (h : c = 408 ∨ c = 409 ∨ c = 425 ∨ c = 429) : IsDefault m c
  /-- Errors of the server are retried where the request can be sent twice, but for two that last. -/
  | server {c : Int} (h : 500 ≤ c ∧ c ≤ 599) (hlasting : c ≠ 501 ∧ c ≠ 505) : IsDefault idempotent c

/-- Every default is a status. -/
theorem IsDefault.range {m : Mode} {c : Int} (h : m.IsDefault c) : 100 ≤ c ∧ c ≤ 599 := by
  cases h with
  | informational _ h => omega
  | redirection _ h => omega
  | passing _ h => omega
  | server h _ => omega

theorem IsDefault.ne_only {m : Mode} {c : Int} (h : m.IsDefault c) : m ≠ only := by
  cases h with
  | informational hm _ => exact hm
  | redirection hm _ => exact hm
  | passing hm _ => exact hm
  | server _ _ => decide

/-- No error of the server is a default where the request must not be sent twice. -/
theorem IsDefault.lt_of_nonIdempotent {c : Int} (h : nonIdempotent.IsDefault c) : c < 500 := by
  cases h with
  | informational _ h => omega
  | redirection _ h => omega
  | passing _ h => omega

theorem retriesByDefault_iff {m : Mode} {code : Nat} : m.retriesByDefault code = true ↔ m.IsDefault code := by
  constructor
  · intro h
    unfold retriesByDefault at h
    split at h
    · cases h
    · exact .informational ‹_› (by omega)
    · exact .redirection ‹_› (by omega)
    · have hcode : code = 408 ∨ code = 409 ∨ code = 425 ∨ code = 429 := by simpa [passingClientErrors] using h
      exact .passing ‹_› (by omega)
    · have hcode : code ≠ 501 ∧ code ≠ 505 := by simpa [lastingServerErrors] using h
      exact .server (by omega) (by omega)
    · cases h
  · intro h
    unfold retriesByDefault
    cases h with
    | informational hm h =>
      have hclass : code / 100 = 1 := by omega
      simp [hclass]
    | redirection hm h =>
      have hclass : code / 100 = 3 := by omega
      simp [hclass]
    | passing hm h =>
      have hclass : code / 100 = 4 := by omega
      simp [hclass, passingClientErrors]
      omega
    | server h hlasting =>
      have hclass : code / 100 = 5 := by omega
      simp [hclass, lastingServerErrors]
      omega

end Mode

namespace StatusTable

variable {m : Mode} {codes others : List UInt16} {t u : StatusTable}

/-! ## A table of a list -/

/-- A table without additions retries the defaults. -/
theorem contains_ofMode_iff {c : Int} : (ofMode m).contains c = true ↔ m.IsDefault c := by
  rw [contains_ofMode]
  by_cases hc : 100 ≤ c ∧ c ≤ 599
  · have hcast : (c.toNat : Int) = c := Int.toNat_of_nonneg (by omega)
    rw [if_pos hc, Mode.retriesByDefault_iff, hcast]
  · rw [if_neg hc]
    simp only [Bool.false_eq_true, false_iff]
    exact fun h => hc h.range

/-- A table of a list retries what is listed and the defaults. -/
theorem contains_ofList_iff (h : ofList m codes = .ok t) {c : Int} :
    t.contains c = true ↔ (∃ code ∈ codes, c = code.toNat) ∨ m.IsDefault c := by
  rw [contains_foldlM_insert h, Bool.or_eq_true, contains_ofMode_iff]
  simp

/-- There is a table of a list exactly where each status on the list is one. -/
theorem exists_ofList_iff :
    (∃ t, ofList m codes = .ok t) ↔ ∀ code ∈ codes, 100 ≤ code.toNat ∧ code.toNat ≤ 599 := by
  constructor
  · rintro ⟨t, h⟩ code hmem
    have hlisted : t.contains code.toNat = true := (contains_ofList_iff h).2 (.inl ⟨code, hmem, rfl⟩)
    have := range_of_contains hlisted
    omega
  · intro h
    exact exists_foldlM_insert h (ofMode m)

/-! ## Tables that answer alike -/

/-- An entry of the table is what a lookup of its status finds. -/
theorem contains_entry (t : StatusTable) {i : Nat} (hi : i < 500) : t.contains (i + 100) = t.retried[i] := by
  have hindex : ((i : Int) + 100 - 100).toNat = i := by omega
  unfold contains
  rw [dif_pos (by omega)]
  simp only [hindex]

/-- Tables that answer alike about every status are the same. -/
theorem eq_of_contains (h : ∀ c : Int, 100 ≤ c → c ≤ 599 → t.contains c = u.contains c) : t = u := by
  obtain ⟨retried⟩ := t
  obtain ⟨retried'⟩ := u
  congr 1
  apply Vector.ext
  intro i hi
  have hentry := h (i + 100) (by omega) (by omega)
  rw [contains_entry _ hi, contains_entry _ hi] at hentry
  exact hentry

/-- A list makes the table that retries what is listed and the defaults, if each status on it is one. -/
theorem ofList_eq_ok_iff :
    ofList m codes = .ok t ↔ (∀ code ∈ codes, 100 ≤ code.toNat ∧ code.toNat ≤ 599) ∧
      ∀ c : Int, t.contains c = true ↔ (∃ code ∈ codes, c = code.toNat) ∨ m.IsDefault c := by
  constructor
  · intro h
    exact ⟨exists_ofList_iff.1 ⟨t, h⟩, fun c => contains_ofList_iff h⟩
  · rintro ⟨hrange, hcontains⟩
    obtain ⟨u, hu⟩ : ∃ u, ofList m codes = .ok u := exists_ofList_iff.2 hrange
    have halike : ∀ c : Int, u.contains c = t.contains c := by
      intro c
      rw [Bool.eq_iff_iff, contains_ofList_iff hu, hcontains]
    rw [hu, eq_of_contains fun c _ _ => halike c]

/-- A list that has been accepted makes the same table in another order and with repetitions. -/
theorem ofList_congr (h : ofList m codes = .ok t) (hmem : ∀ code, code ∈ others ↔ code ∈ codes) :
    ofList m others = .ok t := by
  rw [ofList_eq_ok_iff] at h ⊢
  simpa only [hmem] using h

/-! ## The list of a table -/

theorem mem_range_iff {code : UInt16} : code ∈ range ↔ 100 ≤ code.toNat ∧ code.toNat ≤ 599 := by
  simp only [range, List.mem_map, List.mem_range'_1]
  constructor
  · rintro ⟨n, hn, rfl⟩
    rw [UInt16.toNat_ofNat']
    omega
  · intro h
    exact ⟨code.toNat, by omega, UInt16.ofNat_toNat⟩

theorem pairwise_range : range.Pairwise (· < ·) := by
  rw [range, List.pairwise_map]
  refine List.Pairwise.imp_of_mem ?_ List.pairwise_lt_range'
  intro n k hn hk hlt
  have hn' := List.mem_range'_1.1 hn
  have hk' := List.mem_range'_1.1 hk
  rw [UInt16.lt_iff_toNat_lt, UInt16.toNat_ofNat', UInt16.toNat_ofNat']
  omega

theorem mem_toList_iff {code : UInt16} : code ∈ t.toList ↔ t.contains code.toNat = true := by
  rw [toList, List.mem_filter, mem_range_iff]
  constructor
  · exact And.right
  · intro h
    have := range_of_contains h
    exact ⟨by omega, h⟩

/-- The list of a table names what it retries, whatever number is asked about. -/
theorem contains_iff_exists_mem_toList {c : Int} : t.contains c = true ↔ ∃ code ∈ t.toList, c = code.toNat := by
  constructor
  · intro h
    have hc := range_of_contains h
    have hcast : c = (UInt16.ofNat c.toNat).toNat := by
      rw [UInt16.toNat_ofNat']
      omega
    refine ⟨UInt16.ofNat c.toNat, mem_toList_iff.2 ?_, hcast⟩
    rw [← hcast]
    exact h
  · rintro ⟨code, hmem, rfl⟩
    exact mem_toList_iff.1 hmem

/-- The list of a table makes it again, with any mode whose defaults it retries. -/
theorem ofList_toList (h : ∀ c, m.IsDefault c → t.contains c = true) : ofList m t.toList = .ok t := by
  refine ofList_eq_ok_iff.2 ⟨?_, ?_⟩
  · intro code hmem
    have := range_of_contains (mem_toList_iff.1 hmem)
    omega
  · intro c
    rw [← contains_iff_exists_mem_toList]
    exact ⟨.inl, fun hc => hc.elim id (h c)⟩

/-! ## Both ways -/

/-- What a mode and a list come to. The error is the first status out of range, and there is a table exactly where no status
is. The table retries, of all numbers, those from 100 to 599 that are listed or defaults of the mode. So no list takes a
default away; where the request must not be sent twice an error of the server is retried only if it is listed; and a list
that is accepted makes the same table in any order and with any repetitions. -/
theorem table_of_list_is_exact (m : Mode) (codes : List UInt16) :
    (∀ e, ofList m codes = .error e ↔
      ∃ before code after, codes = before ++ code :: after ∧ (∀ c ∈ before, 100 ≤ c.toNat ∧ c.toNat ≤ 599) ∧
        ¬(100 ≤ code.toNat ∧ code.toNat ≤ 599) ∧ e = .outside code) ∧
    ((∃ t, ofList m codes = .ok t) ↔ ∀ code ∈ codes, 100 ≤ code.toNat ∧ code.toNat ≤ 599) ∧
    ∀ t, ofList m codes = .ok t →
      (∀ c : Int, t.contains c = true ↔
        (100 ≤ c ∧ c ≤ 599) ∧ ((∃ code ∈ codes, c = code.toNat) ∨ m.IsDefault c)) ∧
      (∀ c, (ofMode m).contains c = true → t.contains c = true) ∧
      (m = .nonIdempotent → ∀ c : Int, 500 ≤ c → t.contains c = true → ∃ code ∈ codes, c = code.toNat) ∧
      ∀ others : List UInt16, (∀ code, code ∈ others ↔ code ∈ codes) → ofList m others = .ok t := by
  refine ⟨fun e => foldlM_insert_eq_error_iff, exists_ofList_iff, ?_⟩
  intro t h
  refine ⟨?_, ?_, ?_, fun others => ofList_congr h⟩
  · intro c
    constructor
    · intro hc
      exact ⟨range_of_contains hc, (contains_ofList_iff h).1 hc⟩
    · rintro ⟨-, hc⟩
      exact (contains_ofList_iff h).2 hc
  · intro c hc
    exact (contains_ofList_iff h).2 (.inr (contains_ofMode_iff.1 hc))
  · rintro rfl c hserver hc
    rcases (contains_ofList_iff h).1 hc with hlisted | hdefault
    · exact hlisted
    · have := hdefault.lt_of_nonIdempotent
      omega

/-- Where the request must not be sent twice, 503 is retried if it is listed and 502 is not, and 503 may be listed twice. -/
theorem unavailable_is_retried_where_listed :
    ∃ t, ofList .nonIdempotent [503, 404] = .ok t ∧ t.contains 503 = true ∧ t.contains 502 = false ∧
      ofList .nonIdempotent [404, 503, 503] = .ok t := by
  obtain ⟨-, made, exact⟩ := table_of_list_is_exact .nonIdempotent [503, 404]
  obtain ⟨t, h⟩ := made.2 (by simp)
  obtain ⟨contains, -, server, same⟩ := exact t h
  refine ⟨t, h, (contains 503).2 ⟨by decide, .inl ⟨503, by decide, rfl⟩⟩, ?_, same _ (by grind)⟩
  rw [Bool.eq_false_iff]
  intro hc
  obtain ⟨code, hmem, hcode⟩ := server rfl 502 (by decide) hc
  simp only [List.mem_cons, List.not_mem_nil, or_false] at hmem
  rcases hmem with rfl | rfl
  · exact absurd hcode (by decide)
  · exact absurd hcode (by decide)

/-- A table is what it lists. Its list is ascending, holds statuses from 100 to 599 alone and names each number that the
table retries; with no defaults, or with those it was made with, the list makes the table again; and tables are the same
exactly where they answer alike about every number of 32 bits. -/
theorem table_is_what_it_lists (h : ofList m codes = .ok t) :
    t.toList.Pairwise (· < ·) ∧
    (∀ code ∈ t.toList, 100 ≤ code.toNat ∧ code.toNat ≤ 599) ∧
    (∀ c : Int, t.contains c = true ↔ ∃ code ∈ t.toList, c = code.toNat) ∧
    ofList .only t.toList = .ok t ∧
    ofList m t.toList = .ok t ∧
    ∀ u : StatusTable, t = u ↔ ∀ c : Int32, t.contains c.toInt = u.contains c.toInt := by
  refine ⟨pairwise_range.filter _, ?_, fun c => contains_iff_exists_mem_toList, ofList_toList ?_, ofList_toList ?_, ?_⟩
  · intro code hmem
    exact mem_range_iff.1 (List.mem_filter.1 hmem).1
  · intro c hc
    exact absurd rfl hc.ne_only
  · intro c hc
    exact (contains_ofList_iff h).2 (.inr hc)
  · intro u
    constructor
    · rintro rfl c
      rfl
    · intro halike
      apply eq_of_contains
      intro c hlow hhigh
      have hc := halike (Int32.ofInt c)
      rw [Int32.toInt_ofInt_of_le (by omega) (by omega)] at hc
      exact hc

/-- A table of the defaults and 404 is made again from its list without any defaults. -/
theorem not_found_beside_defaults_is_listed :
    ∃ t, ofList .idempotent [404] = .ok t ∧ 404 ∈ t.toList ∧ ofList .only t.toList = .ok t := by
  obtain ⟨t, h⟩ : ∃ t, ofList .idempotent [404] = .ok t := exists_ofList_iff.2 (by simp)
  obtain ⟨-, -, -, again, -⟩ := table_is_what_it_lists h
  exact ⟨t, h, mem_toList_iff.2 ((contains_ofList_iff h).2 (.inl ⟨404, by decide, rfl⟩)), again⟩

end StatusTable

end RetryPolicy
