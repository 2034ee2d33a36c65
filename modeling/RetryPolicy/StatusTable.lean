import RetryPolicy.Response

/-!
# Which statuses are retried

A `StatusTable` says for each status from 100 to 599 whether a response with it is retried. A `Mode` fills the table
with defaults: informational and redirecting statuses and four client errors are always retried, most server errors
only when the request can safely be sent twice. More statuses can be inserted and none is ever removed; one out of
range is an error. `contains_insert` says what a lookup finds after an insertion.
-/

namespace RetryPolicy

open Text

/-- Which defaults a table has. -/
inductive Mode where
  /-- The request can safely be sent twice. -/
  | idempotent
  /-- The request must not be sent twice when it may have had an effect. -/
  | nonIdempotent
  /-- No defaults. -/
  | only
  deriving DecidableEq

namespace Mode

/-- The three modes. -/
def all : List Mode :=
  [idempotent, nonIdempotent, only]

/-- The name of the mode in settings. -/
def id : Mode → String
  | idempotent => "idempotent"
  | nonIdempotent => "non_idempotent"
  | only => "only"

instance : Inhabited Mode := ⟨idempotent⟩

theorem mem_all (m : Mode) : m ∈ all := by
  cases m <;> decide

/-- The client errors worth a retry: request timeout, conflict, too early, too many requests. -/
def passingClientErrors : List Nat :=
  [408, 409, 425, 429]

/-- The server errors that no retry mends: not implemented, version not supported. -/
def lastingServerErrors : List Nat :=
  [501, 505]

/-- The mode retries the status without being told. -/
def retriesByDefault (m : Mode) (code : Nat) : Bool :=
  match m, code / 100 with
  | only, _ => false
  | _, 1 => true
  | _, 3 => true
  | _, 4 => passingClientErrors.contains code
  | idempotent, 5 => !lastingServerErrors.contains code
  | _, _ => false

end Mode

/-- What is wrong with a list of statuses. -/
inductive TableError where
  /-- A status is not from 100 to 599. -/
  | outside (code : UInt16)
  deriving DecidableEq

/-- The error in words. -/
def TableError.message : TableError → String
  | outside code => "status code " ++ String.ofList (digits code.toNat) ++ " is outside the range 100..=599"

/-- For each status from 100 to 599, whether it is retried. -/
structure StatusTable where
  retried : Vector Bool 500
  deriving DecidableEq

namespace StatusTable

/-- The table of a mode's defaults. -/
def ofMode (m : Mode) : StatusTable :=
  ⟨Vector.ofFn fun i => m.retriesByDefault (i + 100)⟩

/-- The table in which one more status is retried. -/
def insert (t : StatusTable) (code : UInt16) : Except TableError StatusTable :=
  if h : 100 ≤ code.toNat ∧ code.toNat ≤ 599 then
    .ok ⟨t.retried.set (code.toNat - 100) true (by omega)⟩
  else
    .error (.outside code)

/-- The table of a mode's defaults and the listed statuses, or the first of them that is out of range. -/
def ofList (m : Mode) (codes : List UInt16) : Except TableError StatusTable :=
  codes.foldlM insert (ofMode m)

/-- The status is retried. A number that is no status from 100 to 599 is not. -/
def contains (t : StatusTable) (code : Int) : Bool :=
  if h : 100 ≤ code ∧ code ≤ 599 then t.retried[(code - 100).toNat] else false

/-- The response is retried for its status. -/
def permits (t : StatusTable) (r : Response) : Bool :=
  t.contains r.status.toNat

/-- The statuses from 100 to 599, ascending. -/
def range : List UInt16 :=
  (List.range' 100 500).map UInt16.ofNat

/-- The statuses that are retried, ascending. -/
def toList (t : StatusTable) : List UInt16 :=
  range.filter fun code => t.contains code.toNat

/-- The table on one line. -/
def describe (t : StatusTable) : String :=
  "RetryStatusCodes \x7b retried: ["
    ++ ", ".intercalate (t.toList.map fun code => String.ofList (digits code.toNat)) ++ "] \x7d"

instance : Inhabited StatusTable := ⟨ofMode .idempotent⟩

/-- Only statuses from 100 to 599 are retried. -/
theorem range_of_contains {t : StatusTable} {code : Int} (h : t.contains code = true) : 100 ≤ code ∧ code ≤ 599 := by
  unfold contains at h
  split at h
  · assumption
  · cases h

theorem contains_ofMode (m : Mode) (code : Int) :
    (ofMode m).contains code = if 100 ≤ code ∧ code ≤ 599 then m.retriesByDefault code.toNat else false := by
  unfold contains ofMode
  split
  · simp only [Vector.getElem_ofFn]
    congr 1
    omega
  · rfl

/-- After a status is inserted it is retried, and for every other one nothing has changed. -/
theorem contains_insert {t u : StatusTable} {code : UInt16} (h : t.insert code = .ok u) (c : Int) :
    u.contains c = (decide (c = code.toNat) || t.contains c) := by
  unfold insert at h
  split at h
  · rename_i hc
    cases h
    unfold contains
    split
    · rename_i hr
      simp only [Vector.getElem_set]
      by_cases he : c = code.toNat
      · have : code.toNat - 100 = (c - 100).toNat := by omega
        simp only [if_pos this, decide_eq_true he, Bool.true_or]
      · have : code.toNat - 100 ≠ (c - 100).toNat := by omega
        simp [he, this]
    · rename_i hr
      have : c ≠ code.toNat := by omega
      simp [this]
  · cases h

/-- Statuses that are all in range can all be inserted. -/
theorem exists_foldlM_insert {codes : List UInt16} (h : ∀ code ∈ codes, 100 ≤ code.toNat ∧ code.toNat ≤ 599)
    (t : StatusTable) : ∃ u, codes.foldlM insert t = .ok u := by
  induction codes generalizing t with
  | nil => exact ⟨t, rfl⟩
  | cons code codes ih =>
    have hc := h code List.mem_cons_self
    obtain ⟨u, hu⟩ : ∃ u, t.insert code = .ok u := ⟨_, dif_pos hc⟩
    obtain ⟨v, hv⟩ := ih (fun c hm => h c (List.mem_cons_of_mem _ hm)) u
    refine ⟨v, ?_⟩
    rw [List.foldlM_cons, hu]
    exact hv

/-- Inserting a list of statuses fails at the first of them that is out of range, and the error names it. -/
theorem foldlM_insert_eq_error_iff {codes : List UInt16} {t : StatusTable} {e : TableError} :
    codes.foldlM insert t = .error e ↔
      ∃ before code after, codes = before ++ code :: after ∧ (∀ c ∈ before, 100 ≤ c.toNat ∧ c.toNat ≤ 599) ∧
        ¬(100 ≤ code.toNat ∧ code.toNat ≤ 599) ∧ e = .outside code := by
  induction codes generalizing t with
  | nil =>
    constructor
    · nofun
    · rintro ⟨before, code, after, hcodes, -⟩
      simp at hcodes
  | cons head codes ih =>
    rw [List.foldlM_cons]
    by_cases hhead : 100 ≤ head.toNat ∧ head.toNat ≤ 599
    · obtain ⟨u, hu⟩ : ∃ u, t.insert head = .ok u := ⟨_, dif_pos hhead⟩
      rw [hu]
      show codes.foldlM insert u = .error e ↔ _
      rw [ih]
      constructor
      · rintro ⟨before, code, after, rfl, hbefore, hcode, rfl⟩
        exact ⟨head :: before, code, after, rfl, List.forall_mem_cons.2 ⟨hhead, hbefore⟩, hcode, rfl⟩
      · rintro ⟨_ | ⟨b, before⟩, code, after, hcodes, hbefore, hcode, rfl⟩
        · obtain ⟨rfl, -⟩ := List.cons.inj hcodes
          exact absurd hhead hcode
        · obtain ⟨rfl, rfl⟩ := List.cons.inj hcodes
          exact ⟨before, code, after, rfl, (List.forall_mem_cons.1 hbefore).2, hcode, rfl⟩
    · have herror : t.insert head = .error (.outside head) := dif_neg hhead
      rw [herror]
      constructor
      · intro h
        cases h
        exact ⟨[], head, codes, rfl, nofun, hhead, rfl⟩
      · rintro ⟨_ | ⟨b, before⟩, code, after, hcodes, hbefore, hcode, rfl⟩
        · obtain ⟨rfl, -⟩ := List.cons.inj hcodes
          rfl
        · obtain ⟨rfl, -⟩ := List.cons.inj hcodes
          exact absurd (hbefore head List.mem_cons_self) hhead

/-- After a list of statuses is inserted each of them is retried, and for every other one nothing has changed. -/
theorem contains_foldlM_insert {codes : List UInt16} {t u : StatusTable} (h : codes.foldlM insert t = .ok u) (c : Int) :
    u.contains c = (codes.any (fun code => c = code.toNat) || t.contains c) := by
  induction codes generalizing t with
  | nil =>
    cases h
    rfl
  | cons code codes ih =>
    rw [List.foldlM_cons] at h
    cases hi : t.insert code with
    | error e =>
      rw [hi] at h
      cases h
    | ok v =>
      rw [hi] at h
      rw [ih h, contains_insert hi, List.any_cons, ← Bool.or_assoc, Bool.or_comm (List.any codes _)]

/-- A table of a list retries the responses whose status is from 100 to 599 and is listed or retried by default. -/
theorem permits_iff_of_ofList {m : Mode} {codes : List UInt16} {t : StatusTable} (h : ofList m codes = .ok t)
    (r : Response) :
    t.permits r = true ↔ (100 ≤ r.status.toNat ∧ r.status.toNat ≤ 599) ∧
      (r.status ∈ codes ∨ m.retriesByDefault r.status.toNat = true) := by
  have hlisted : codes.any (fun code => (r.status.toNat : Int) = code.toNat) = true ↔ r.status ∈ codes := by
    simp only [List.any_eq_true, decide_eq_true_eq, Int.natCast_inj, UInt16.toNat_inj]
    exact ⟨fun ⟨code, hmem, he⟩ => he ▸ hmem, fun hmem => ⟨r.status, hmem, rfl⟩⟩
  have hcontains := contains_foldlM_insert h r.status.toNat
  rw [contains_ofMode, Int.toNat_natCast] at hcontains
  unfold permits
  constructor
  · intro hp
    have hrange := range_of_contains hp
    rw [if_pos hrange] at hcontains
    rw [hcontains, Bool.or_eq_true, hlisted] at hp
    exact ⟨by omega, hp⟩
  · rintro ⟨hrange, hstatus⟩
    rw [if_pos (by omega)] at hcontains
    rw [hcontains, Bool.or_eq_true, hlisted]
    exact hstatus

end StatusTable

end RetryPolicy
