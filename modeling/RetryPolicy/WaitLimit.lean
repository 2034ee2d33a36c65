import RetryPolicy.Header.Reader

/-!
# Refusing a retry that would have to wait too long

A `WaitLimit` refuses a response whose Retry-After header asks for more than the longest wait. A wait of exactly that
length is permitted, and so is a header that is missing or cannot be read. A refusal leaves an event with both
lengths.
-/

namespace RetryPolicy

/-- The longest wait that is permitted, and the reader that finds the waits. -/
structure WaitLimit where
  maximum : Span
  reader : HeaderReader
  deriving DecidableEq

namespace WaitLimit

/-- A limit on the waits of every format. -/
def ofSpan (maximum : Span) (now : ClockTime) : WaitLimit :=
  ⟨maximum, HeaderReader.ofPreset .extended now⟩

/-- Whether the wait that the response asks for is within the limit. -/
def permits (l : WaitLimit) (r : Response) : Logged Bool :=
  match l.reader.waitOf r with
  | ⟨some d, events⟩ =>
    if l.maximum < d then ⟨false, events ++ [.overLimit d.millis l.maximum.millis]⟩ else ⟨true, events⟩
  | ⟨none, events⟩ => ⟨true, events⟩

/-- A response is refused for a wait that is over the limit and for nothing else. -/
theorem value_permits_iff (l : WaitLimit) (r : Response) :
    (l.permits r).value = true ↔ ∀ d ∈ (l.reader.waitOf r).value, d ≤ l.maximum := by
  unfold permits
  rcases l.reader.waitOf r with ⟨_ | d, events⟩
  · simp
  · simp only [Option.mem_def, Option.some.injEq, forall_eq', Span.le_iff]
    split
    · rename_i h
      rw [Span.lt_iff] at h
      simp only [Bool.false_eq_true, false_iff]
      omega
    · rename_i h
      rw [Span.lt_iff] at h
      simp only [true_iff]
      omega

/-- A refusal leaves its event, and nothing else does. -/
theorem exists_exceeds_iff (l : WaitLimit) (r : Response) :
    (∃ e ∈ (l.permits r).events, e.message = "Retry-After exceeds limit") ↔ (l.permits r).value = false := by
  have hwarn : ∀ e ∈ (l.reader.waitOf r).events, ¬e.message = "Retry-After exceeds limit" := by
    intro e he hm
    obtain ⟨wait, limit, rfl⟩ := Event.message_eq_exceeds_iff.1 hm
    exact nomatch l.reader.level_of_mem_events_wait r.retryAfter _ he
  unfold permits
  generalize l.reader.waitOf r = asked at hwarn ⊢
  rcases asked with ⟨_ | d, events⟩
  · exact ⟨fun ⟨e, he, hm⟩ => absurd hm (hwarn e he), nofun⟩
  · by_cases hd : l.maximum < d
    · simp only [if_pos hd, iff_true]
      exact ⟨_, List.mem_append_right _ (List.mem_singleton.2 rfl), rfl⟩
    · simp only [if_neg hd]
      exact ⟨fun ⟨e, he, hm⟩ => absurd hm (hwarn e he), nofun⟩

end WaitLimit

end RetryPolicy
