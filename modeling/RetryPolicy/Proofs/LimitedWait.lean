import RetryPolicy.Proofs.Clock
import RetryPolicy.Settings

/-!
# The limit and the wait agree

Settings with a longest wait give a condition, which refuses a response whose header asks for more, and a rule, which waits
for what the header asks. Each has a reader of its own and reads the header at a clock time of its own, and the condition
compares nanoseconds where the rule counts milliseconds. `waitAfter_of_accepted` and `le_waitAfter_of_refused` say that
the two agree all the same: a response that is accepted is never waited for longer than the limit because of its header,
and one that is refused would have been waited for at least that long. Only when a leap second begins or ends between the two
readings may the wait be over the limit, by less than a second (`accepted_wait_outgrows_limit`).
-/

namespace RetryPolicy

namespace Settings

variable {τ ε : Type}

/-- The statuses that are added are statuses of a table. -/
def HasValidStatuses (s : Settings) : Prop :=
  ∀ code ∈ s.extraStatuses, 100 ≤ code.toNat ∧ code.toNat ≤ 599

instance (s : Settings) : Decidable s.HasValidStatuses :=
  List.decidableBAll (fun code : UInt16 => 100 ≤ code.toNat ∧ code.toNat ≤ 599) s.extraStatuses

theorem exists_statusTable {s : Settings} (h : s.HasValidStatuses) : ∃ t, s.statusTable = .ok t :=
  StatusTable.exists_foldlM_insert h _

/-- Settings whose table can be built have a condition: the table and the limit. -/
theorem condition_eq {s : Settings} {t : StatusTable} (h : s.statusTable = .ok t) (now : ClockTime) :
    s.condition now = .ok (.and (.table t) (.limit (s.limit now)) : Condition τ) := by
  rw [condition, h]
  rfl

/-- The condition of settings holds where the table retries the status and the wait is within the limit. -/
theorem holdsFor_condition {s : Settings} {t : StatusTable} (ht : s.statusTable = .ok t) {now : ClockTime} {c : Condition τ}
    (hc : s.condition now = .ok c) (r : Response) : c.holdsFor r = (t.permits r && ((s.limit now).permits r).value) := by
  rw [condition_eq ht now] at hc
  cases hc
  rw [Condition.holdsFor_and, Condition.holdsFor_table, Condition.holdsFor_limit]

/-- The limit of settings refuses a wait that is longer than the longest one and nothing else. -/
theorem value_permits_limit_iff {s : Settings} {m : Millis} (hm : s.maxWait = some m) (now : ClockTime) (r : Response) :
    ((s.limit now).permits r).value = true ↔ ∀ d ∈ ((s.reader now).waitOf r).value, d ≤ m.span := by
  have he : (s.limit now).maximum = m.span := by
    simp only [limit, maximum, hm]
  rw [WaitLimit.value_permits_iff, he]
  rfl

/-- A response within the limit is waited for as the base says, or else no longer than the limit, also when its header is
read again later. Only a leap second that begins or ends in between may add to that, and less than a second. -/
theorem waitAfter_of_accepted {s : Settings} {m : Millis} (hm : s.maxWait = some m) {now later : ClockTime}
    (hn : now ≤ later) (base : WaitRule ε) (attempt : Nat) {r : Response}
    (hp : ((s.limit now).permits r).value = true) :
    (s.waitRule base later).waitAfter attempt r = base.waitAfter attempt r ∨
      ∃ w, (s.waitRule base later).waitAfter attempt r = some w ∧ w.count ≤ m.count + 999 ∧
        (¬now.BordersLeapSecond later → w ≤ m) := by
  rw [waitRule, WaitRule.waitAfter_honor]
  cases hd : ((s.reader later).waitOf r).value with
  | none => exact .inl rfl
  | some d =>
    obtain ⟨e, he, hlt, hle⟩ := HeaderReader.exists_wait_of_later hn hd
    have hem : e ≤ m.span := (value_permits_limit_iff hm now r).1 hp e he
    have hdm : ¬now.BordersLeapSecond later → d.millis ≤ m := by
      intro hb
      have := Span.millis_le_millis (Nat.le_trans (hle hb) hem)
      rwa [Span.millis_span] at this
    have hcount : d.millis.count ≤ m.count + 999 := by
      rw [Span.le_iff, Span.nanos_span] at hem
      rw [Span.count_millis]
      omega
    rcases Pause.longer_eq_or (base.waitAfter attempt r) d.millis with h | h
    · exact .inl h
    · refine .inr ⟨_, rfl, ?_⟩
      rw [h]
      exact ⟨hcount, hdm⟩

/-- A response over the limit would have been waited for at least as long as the limit. -/
theorem le_waitAfter_of_refused {s : Settings} {m : Millis} (hm : s.maxWait = some m) (now : ClockTime)
    (base : WaitRule ε) (attempt : Nat) {r : Response} (hp : ((s.limit now).permits r).value = false) :
    ∃ w, (s.waitRule base now).waitAfter attempt r = some w ∧ m ≤ w := by
  have hn : ¬∀ d ∈ ((s.reader now).waitOf r).value, d ≤ m.span := by
    rw [← value_permits_limit_iff hm now r, hp]
    exact Bool.false_ne_true
  obtain ⟨d, hd, hlt⟩ : ∃ d, ((s.reader now).waitOf r).value = some d ∧ ¬d ≤ m.span := by
    simpa using hn
  have hmd : m ≤ d.millis := Span.le_millis_iff.2 (Nat.le_of_not_le hlt)
  rw [waitRule, WaitRule.waitAfter_honor, hd]
  exact ⟨_, rfl, Nat.le_trans hmd (Pause.le_longer _ _)⟩

/-- Settings that wait for five seconds at most, and retry one client error more. -/
def fiveSeconds : Settings := { extraStatuses := [404], maxWait := some ⟨5000, by decide⟩ }

/-- A response that asks for a wait until a date. -/
def untilDate : Response := (SampleResponse.withRetryAfter ⟨404, []⟩ "Thu, 02 Jan 2003 01:23:45 GMT").view

/-- Settings that wait for just short of an hour. -/
def almostAnHour : Settings := { maxWait := some ⟨3599600, by decide⟩ }

/-- A response that asks for a wait until an hour after the leap second of June 2015. -/
def hourAfterLeapSecond : Response := (SampleResponse.withRetryAfter ⟨503, []⟩ "Wed, 01 Jul 2015 01:00:00 GMT").view

end Settings

end RetryPolicy
