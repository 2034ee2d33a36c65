import RetryPolicy.Proofs.LimitedWait

/-!
# What the condition of settings decides

The condition of settings joins a table of statuses and a limit on waits, and both are made from plain data that can be wrong:
a status that is added may be out of range. `condition_decides` says what becomes of it. The first status out of range is
the error; without one, a response is retried exactly when its status is (`RetriesStatus`) and its header does not ask
for more than the longest wait (`AsksTooLong`). The limit does not even look at a response whose status is not retried, so
that nothing is logged for it.
-/

namespace RetryPolicy

namespace Settings

variable {τ : Type}

/-- The settings retry the status: it is one from 100 to 599, and it is listed or the mode retries it by default. -/
def RetriesStatus (s : Settings) (code : UInt16) : Prop :=
  (100 ≤ code.toNat ∧ code.toNat ≤ 599) ∧ (code ∈ s.extraStatuses ∨ s.mode.retriesByDefault code.toNat = true)

/-- The response asks for more than the longest wait, if there is one. -/
def AsksTooLong (s : Settings) (now : ClockTime) (r : Response) : Prop :=
  ∃ m d, s.maxWait = some m ∧ ((s.reader now).waitOf r).value = some d ∧ m.span < d

/-- There is no condition exactly where there is no table. -/
theorem condition_eq_error_iff {s : Settings} {now : ClockTime} {e : TableError} :
    (s.condition now : Except TableError (Condition τ)) = .error e ↔ s.statusTable = .error e := by
  unfold condition
  cases s.statusTable with
  | error e' => simp [Except.map]
  | ok t => simp [Except.map]

/-- The error is the first of the added statuses that is out of range. -/
theorem statusTable_eq_error_iff {s : Settings} {e : TableError} :
    s.statusTable = .error e ↔
      ∃ before code after, s.extraStatuses = before ++ code :: after ∧
        (∀ c ∈ before, 100 ≤ c.toNat ∧ c.toNat ≤ 599) ∧ ¬(100 ≤ code.toNat ∧ code.toNat ≤ 599) ∧ e = .outside code :=
  StatusTable.foldlM_insert_eq_error_iff

/-- The table can be built exactly from statuses that are in range. -/
theorem exists_statusTable_eq_error_iff {s : Settings} :
    (∃ e, s.statusTable = .error e) ↔ ∃ code ∈ s.extraStatuses, ¬(100 ≤ code.toNat ∧ code.toNat ≤ 599) := by
  constructor
  · rintro ⟨e, he⟩
    obtain ⟨before, code, after, hcodes, -, hcode, -⟩ := statusTable_eq_error_iff.1 he
    exact ⟨code, hcodes ▸ List.mem_append_right _ List.mem_cons_self, hcode⟩
  · rintro ⟨code, hmem, hcode⟩
    cases ht : s.statusTable with
    | error e => exact ⟨e, rfl⟩
    | ok t =>
      -- a table that could be built retries what was listed, and it has no statuses out of range
      have hlisted : t.contains code.toNat = true := by
        rw [StatusTable.contains_foldlM_insert ht, Bool.or_eq_true]
        exact .inl (List.any_eq_true.2 ⟨code, hmem, by simp⟩)
      have := StatusTable.range_of_contains hlisted
      omega

/-- Without a longest wait the limit is the longest span, and no header asks for more. -/
theorem value_permits_limit_eq_false_iff {s : Settings} {now : ClockTime} {r : Response} :
    ((s.limit now).permits r).value = false ↔ s.AsksTooLong now r := by
  cases hm : s.maxWait with
  | none =>
    have hall : ∀ d ∈ ((s.limit now).reader.waitOf r).value, d ≤ (s.limit now).maximum := by
      intro d _
      have hmax : (s.limit now).maximum = Span.longest := by
        simp only [limit, maximum, hm]
      have := d.nanos_lt
      rw [hmax, Span.le_iff]
      show d.nanos ≤ 0x10000000000000000 * 1000000000 - 1
      omega
    rw [(WaitLimit.value_permits_iff _ _).2 hall]
    constructor
    · intro h
      cases h
    · rintro ⟨m, d, hm', -⟩
      rw [hm] at hm'
      cases hm'
  | some m =>
    rw [← Bool.not_eq_true, value_permits_limit_iff hm]
    constructor
    · intro h
      obtain ⟨d, hd, hlt⟩ : ∃ d, ((s.reader now).waitOf r).value = some d ∧ ¬d ≤ m.span := by simpa using h
      exact ⟨m, d, hm, hd, Nat.lt_of_not_le hlt⟩
    · rintro ⟨m', d, hm', hd, hlt⟩ h
      obtain rfl : m = m' := Option.some.inj (hm.symm.trans hm')
      exact absurd (h d hd) (Nat.not_le_of_lt hlt)

/-- What the condition of settings comes to. There is one unless an added status is out of range, and then the first such
status is named. It holds for a response whose status is retried and whose header does not ask for too long a wait. Where
the status is not retried it fails and leaves no event; a refusal is logged exactly where the status is retried and it
fails; and without a longest wait the table alone decides. -/
theorem condition_decides (s : Settings) (now : ClockTime) :
    (∀ e, (s.condition now : Except TableError (Condition τ)) = .error e ↔
      ∃ before code after, s.extraStatuses = before ++ code :: after ∧
        (∀ c ∈ before, 100 ≤ c.toNat ∧ c.toNat ≤ 599) ∧ ¬(100 ≤ code.toNat ∧ code.toNat ≤ 599) ∧ e = .outside code) ∧
    ((∃ e, (s.condition now : Except TableError (Condition τ)) = .error e) ↔
      ∃ code ∈ s.extraStatuses, ¬(100 ≤ code.toNat ∧ code.toNat ≤ 599)) ∧
    (s.HasValidStatuses → ∃ (t : StatusTable) (c : Condition τ), s.statusTable = .ok t ∧ s.condition now = .ok c ∧
      ∀ r, (c.holdsFor r = true ↔ s.RetriesStatus r.status ∧ ¬s.AsksTooLong now r) ∧
        (¬s.RetriesStatus r.status → c.evaluate r = ⟨false, [], []⟩) ∧
        ((∃ e ∈ (c.evaluate r).events, e.message = "Retry-After exceeds limit") ↔
          s.RetriesStatus r.status ∧ c.holdsFor r = false) ∧
        (s.maxWait = none → c.holdsFor r = t.permits r)) := by
  refine ⟨?_, ?_, ?_⟩
  · intro e
    rw [condition_eq_error_iff]
    exact statusTable_eq_error_iff
  · simp only [condition_eq_error_iff]
    exact exists_statusTable_eq_error_iff
  · intro hv
    obtain ⟨t, ht⟩ := exists_statusTable hv
    have hc : s.condition now = .ok (.and (.table t) (.limit (s.limit now)) : Condition τ) := condition_eq ht now
    refine ⟨t, _, ht, hc, ?_⟩
    intro r
    have hstatus : t.permits r = true ↔ s.RetriesStatus r.status := StatusTable.permits_iff_of_ofList ht r
    have hlimit : ((s.limit now).permits r).value = false ↔ s.AsksTooLong now r := value_permits_limit_eq_false_iff
    have hevaluate : (.and (.table t) (.limit (s.limit now)) : Condition τ).evaluate r = _ :=
      Condition.evaluate_table_and_limit t (s.limit now) r
    refine ⟨?_, ?_, ?_, ?_⟩
    · rw [holdsFor_condition ht hc, Bool.and_eq_true, hstatus, ← hlimit, Bool.not_eq_false]
    · intro hn
      rw [hevaluate, if_neg (fun hp => hn (hstatus.1 hp))]
    · rw [Condition.holdsFor, hevaluate]
      by_cases hp : t.permits r = true
      · rw [if_pos hp, WaitLimit.exists_exceeds_iff]
        exact ⟨fun hl => ⟨hstatus.1 hp, hl⟩, And.right⟩
      · rw [if_neg hp]
        exact ⟨fun ⟨e, he, _⟩ => absurd he List.not_mem_nil, fun h => absurd (hstatus.2 h.1) hp⟩
    · intro hnone
      have hpermits : ((s.limit now).permits r).value = true := by
        rw [← Bool.not_eq_false, hlimit]
        rintro ⟨m, d, hm, -⟩
        rw [hnone] at hm
        cases hm
      rw [holdsFor_condition ht hc, hpermits, Bool.and_true]

/-- With five seconds at most, a retry of 404 is refused when the header asks for a millisecond more, and that is logged. -/
theorem fiveSeconds_refuses_longer_wait :
    let now : ClockTime := ⟨0, 0, by decide, by decide, by decide⟩
    let r : Response := (SampleResponse.withRetryAfter ⟨404, []⟩ "5.001").view
    fiveSeconds.HasValidStatuses ∧ ∃ c : Condition Empty, fiveSeconds.condition now = .ok c ∧ c.holdsFor r = false ∧
      ∃ e ∈ (c.evaluate r).events, e.message = "Retry-After exceeds limit" := by
  intro now r
  have hv : fiveSeconds.HasValidStatuses := by decide
  have hstatus : fiveSeconds.RetriesStatus r.status := ⟨by decide, .inl (by decide)⟩
  have hasks : fiveSeconds.AsksTooLong now r :=
    ⟨⟨5000, by decide⟩, ⟨5001000000, by decide⟩, rfl, by decide +kernel, by decide⟩
  obtain ⟨t, (c : Condition Empty), -, hc, hr⟩ := (condition_decides fiveSeconds now).2.2 hv
  obtain ⟨holds, -, logged, -⟩ := hr r
  have hf : c.holdsFor r = false := by
    rw [← Bool.not_eq_true, holds]
    exact fun h => h.2 hasks
  exact ⟨hv, c, hc, hf, logged.2 ⟨hstatus, hf⟩⟩

end Settings

end RetryPolicy
