import RetryPolicy.Proofs.FirstFault
import RetryPolicy.Proofs.QuotedText
import RetryPolicy.Proofs.ReaderLog
import RetryPolicy.WaitLimit
import RetryPolicy.WaitRule

/-!
# No header forges a log

Whatever a header holds, no event that it leaves has a control character in its message or in a field, so that it can neither
begin a line of its own nor move the cursor of a terminal. Its text reaches a message between double quotes only, and a field
between double quotes or, where a delay is too long, as digits and a point. From a last warning, that a header is empty or not
recognized, the header can be told exactly (`headers_cannot_forge_log`).
-/

namespace RetryPolicy

open Text Header

/-! ## What is shown of a delay that is too long -/

namespace Format

/-- A digit or the point of a delay. -/
def isOfDelay (c : Char) : Bool :=
  c.isDigit || c == '.'

theorem isOfDelay_of_isDigit (c : Char) (h : c.isDigit = true) : isOfDelay c = true := by
  rw [isOfDelay, h, Bool.true_or]

theorem isControl_eq_false_of_isOfDelay (c : Char) (h : isOfDelay c = true) : isControl c = false := by
  rw [isOfDelay, Bool.or_eq_true, beq_iff_eq] at h
  rcases h with h | rfl
  · exact isControl_eq_false_of_isDigit c h
  · decide

theorem all_isOfDelay_text {t : DecimalText} (h : t.WellFormed) : t.text.all isOfDelay = true := by
  have hnone := DecimalText.any_text h (q := fun c => !isOfDelay c)
    (fun c hc => by rw [isOfDelay_of_isDigit c hc]; rfl) (by decide)
  rw [List.any_eq_false] at hnone
  rw [List.all_eq_true]
  intro c hc
  simpa using hnone c hc

/-- The delay that is said to be too long is the header, and it consists of digits and perhaps a point. -/
theorem tooLong_of_fault? {f : Format} {cs : List Char} {shown : String} (h : f.fault? cs = some (.tooLong shown)) :
    shown = String.ofList cs ∧ cs.all isOfDelay = true := by
  have hread := fault?_eq_some_iff.1 h
  cases f with
  | wholeSeconds =>
    obtain ⟨⟨hd, -⟩, hshown⟩ := fault?_wholeSeconds_eq_some_iff.1 h
    cases hshown
    exact ⟨rfl, List.all_eq_true.2 fun c hc => isOfDelay_of_isDigit c (List.all_eq_true.1 hd c hc)⟩
  | decimalSeconds =>
    rw [read, map_eq_error_iff, Header.decimalSeconds, Option.map_eq_some_iff] at hread
    obtain ⟨t, hscan, hfound⟩ := hread
    obtain ⟨-, hshown⟩ := orFault_eq_error_iff.1 hfound
    cases hshown
    obtain ⟨ht, rfl⟩ := DecimalText.scan_eq_some_iff.1 hscan
    exact ⟨rfl, all_isOfDelay_text ht⟩
  -- a date has no such fault
  | imfFixdate =>
    rw [read, map_eq_error_iff, Header.imfFixdate, Option.map_eq_some_iff] at hread
    obtain ⟨t, -, hfound⟩ := hread
    obtain ⟨hfault, -⟩ := Stamp.isFirst_of_error hfound
    cases hfault
  | rfc850 =>
    rw [read, map_eq_error_iff, Header.rfc850, Option.map_eq_some_iff] at hread
    obtain ⟨t, -, hfound⟩ := hread
    obtain ⟨hfault, -⟩ := Stamp.isFirst_of_error hfound
    cases hfault
  | asctime =>
    rw [read, map_eq_error_iff, Header.asctime, Option.map_eq_some_iff] at hread
    obtain ⟨t, -, hfound⟩ := hread
    obtain ⟨hfault, -⟩ := Stamp.isFirst_of_error hfound
    cases hfault
  | iso8601 =>
    rw [read, map_eq_error_iff, Header.iso8601, Option.map_eq_some_iff] at hread
    obtain ⟨t, -, hfound⟩ := hread
    obtain ⟨hfault, -⟩ := IsoText.isFirst_of_error hfound
    cases hfault

end Format

/-! ## Faults in words -/

namespace Fault

theorem plain_padded (width n : Nat) : Plain (String.ofList (padded width n)) :=
  plain_of_all_isDigit (all_isDigit_padded width n)

theorem plain_signedPadded (width : Nat) (n : Int) : Plain (String.ofList (signedPadded width n)) := by
  cases n with
  | ofNat n => exact plain_padded width n
  | negSucc n =>
    have hdigits := any_eq_false_of_all isControl_eq_false_of_isDigit (all_isDigit_padded (width - 1) (n + 1))
    have hsign : isControl '-' = false := by decide
    apply plain_ofList
    rw [signedPadded, List.any_cons, hdigits, hsign]
    rfl

theorem plain_abbreviation (day : Weekday) : Plain day.abbreviation := by
  cases day <;> decide

/-- The words for a fault have no control character unless a delay that they show has one. -/
theorem plain_message {fault : Fault} (h : ∀ shown, fault = .tooLong shown → Plain shown) : Plain fault.message := by
  cases fault with
  | tooLong shown =>
    change Plain ("delay of " ++ shown ++ " seconds is too large")
    rw [plain_append_iff, plain_append_iff]
    exact ⟨⟨by decide, h shown rfl⟩, by decide⟩
  | unknownMonth name => exact plain_append (by decide) (plain_quoted name)
  | unknownWeekday name => exact plain_append (by decide) (plain_quoted name)
  | unknownZone name => exact plain_append (by decide) (plain_quoted name)
  | noSuchDate year month day =>
    have hhyphen : Plain "-" := by decide
    change Plain ("invalid date " ++ String.ofList (signedPadded 4 year) ++ "-" ++ String.ofList (padded 2 month) ++ "-" ++
      String.ofList (padded 2 day))
    simp only [plain_append_iff, plain_signedPadded, plain_padded, hhyphen, and_true]
    decide
  | noSuchTime hour minute second =>
    have hcolon : Plain ":" := by decide
    change Plain ("invalid time " ++ String.ofList (padded 2 hour) ++ ":" ++ String.ofList (padded 2 minute) ++ ":" ++
      String.ofList (padded 2 second))
    simp only [plain_append_iff, plain_padded, hcolon, and_true]
    decide
  | wrongWeekday named actual =>
    change Plain (named.abbreviation ++ " does not match the date, which is a " ++ actual.abbreviation)
    simp only [plain_append_iff, plain_abbreviation, and_true, true_and]
    decide
  | isoOutOfRange => exact (by decide : Plain "invalid ISO-8601 instant: input is out of range")

end Fault

/-! ## Events -/

namespace Event

/-- How a warning opens; what it quotes stands behind. -/
def openings : List String :=
  ["received empty Retry-After header ", "received unrecognized Retry-After header ", "failed to parse Retry-After header "]

/-- No opening is the beginning of another, so that it can be told where an opening ends. -/
theorem opening_append_inj {a b s t : String} (ha : a ∈ openings) (hb : b ∈ openings) (h : a ++ s = b ++ t) :
    a = b ∧ s = t := by
  have hbegins : ∀ a ∈ openings, ∀ b ∈ openings, a.toList <+: b.toList → a = b := by decide
  have hlists := congrArg String.toList h
  rw [String.toList_append, String.toList_append] at hlists
  have hline : b.toList <+: a.toList ++ s.toList := ⟨t.toList, hlists.symm⟩
  have hab : a = b := by
    rcases List.prefix_or_prefix_of_prefix (List.prefix_append a.toList s.toList) hline with hle | hle
    · exact hbegins a ha b hb hle
    · exact (hbegins b hb a ha hle).symm
  subst hab
  exact ⟨rfl, String.toList_inj.1 (List.append_cancel_left hlists)⟩

theorem plain_millisText (m : Millis) : Plain (millisText m) :=
  plain_of_all_isDigit (all_isDigit_digits m.count)

theorem plain_optionalMillisText (m : Option Millis) : Plain (optionalMillisText m) := by
  cases m with
  | none => exact (by decide : Plain "None")
  | some m =>
    change Plain ("Some(" ++ millisText m ++ ")")
    rw [plain_append_iff, plain_append_iff]
    exact ⟨⟨by decide, plain_millisText m⟩, by decide⟩

/-- What is left of a header in an event. -/
structure Harmless (header : Option String) (e : Event) : Prop where
  /-- The message has no control character. -/
  message : Plain e.message
  /-- Nor has a field, neither its name nor its value. -/
  fields : ∀ field ∈ e.fields, Plain field.1 ∧ Plain field.2
  /-- A warning opens with words of its own and then quotes the header, trimmed or as it came. -/
  quotes : e.level = .warn → ∃ raw ∈ header, ∃ opening ∈ openings, ∃ text,
    (text = raw ∨ text = String.ofList (trim raw.toList)) ∧ e.message = opening ++ quoted text
  /-- What is not quoted consists of digits and a point. -/
  delay : ∀ f text shown, e = .unreadable f text (.tooLong shown) → shown.toList.all Format.isOfDelay = true

/-- The event is a warning that a header is empty or not recognized, and shows it as it came. -/
def showsRaw : Event → Bool
  | emptyHeader _ | unrecognizedHeader _ => true
  | _ => false

theorem harmless_emptyHeader (raw : String) : Harmless (some raw) (.emptyHeader raw) where
  message := plain_append (by decide) (plain_quoted raw)
  fields := List.forall_mem_nil _
  quotes _ := ⟨raw, rfl, _, by simp [openings], raw, .inl rfl, rfl⟩
  delay := nofun

theorem harmless_unrecognizedHeader (raw : String) : Harmless (some raw) (.unrecognizedHeader raw) where
  message := plain_append (by decide) (plain_quoted raw)
  fields := List.forall_mem_nil _
  quotes _ := ⟨raw, rfl, _, by simp [openings], raw, .inl rfl, rfl⟩
  delay := nofun

theorem harmless_unreadable {f : Format} {raw : String} {fault : Fault} (h : f.fault? (trim raw.toList) = some fault) :
    Harmless (some raw) (.unreadable f (String.ofList (trim raw.toList)) fault) where
  message := plain_append (by decide) (plain_quoted _)
  fields := by
    have hname : Plain f.name := by cases f <;> decide
    have hmessage : Plain fault.message := by
      apply Fault.plain_message
      rintro shown rfl
      obtain ⟨rfl, hall⟩ := Format.tooLong_of_fault? h
      exact plain_ofList (any_eq_false_of_all Format.isControl_eq_false_of_isOfDelay hall)
    simp only [Event.fields, List.forall_mem_cons]
    exact ⟨⟨by decide, hname⟩, ⟨by decide, hmessage⟩, List.forall_mem_nil _⟩
  quotes _ := ⟨raw, rfl, _, by simp [openings], _, .inr rfl, rfl⟩
  delay := by
    rintro _ _ shown ⟨⟩
    obtain ⟨rfl, hall⟩ := Format.tooLong_of_fault? h
    rwa [String.toList_ofList]

theorem harmless_overLimit (header : Option String) (wait limit : Millis) : Harmless header (.overLimit wait limit) where
  message := (by decide : Plain "Retry-After exceeds limit")
  fields := by
    simp only [Event.fields, List.forall_mem_cons]
    exact ⟨⟨by decide, plain_millisText wait⟩, ⟨by decide, plain_millisText limit⟩, List.forall_mem_nil _⟩
  quotes := nofun
  delay := nofun

theorem harmless_honored (header : Option String) (attempt : Nat) (asked : Millis) (base : Option Millis) (wait : Millis) :
    Harmless header (.honored attempt asked base wait) where
  message := (by decide : Plain "heeding Retry-After")
  fields := by
    simp only [Event.fields, List.forall_mem_cons]
    exact ⟨⟨by decide, plain_of_all_isDigit (all_isDigit_digits attempt)⟩, ⟨by decide, plain_millisText asked⟩,
      ⟨by decide, plain_optionalMillisText base⟩, ⟨by decide, plain_millisText wait⟩, List.forall_mem_nil _⟩
  quotes := nofun
  delay := nofun

end Event

/-! ## What a reader, a limit and a rule leave behind -/

namespace HeaderReader

/-- The warnings of a list of formats are those of its formats. -/
theorem mem_events_firstHeading {cs : List Char} {formats : List Format} {e : Event}
    (he : e ∈ (firstHeading (String.ofList cs) formats).events) :
    ∃ f fault, f.fault? cs = some fault ∧ e = .unreadable f (String.ofList cs) fault := by
  have hwarning : ∀ {l : List Format}, e ∈ l.filterMap (Format.warning? cs) →
      ∃ f fault, f.fault? cs = some fault ∧ e = .unreadable f (String.ofList cs) fault := by
    intro l hl
    obtain ⟨f, -, hf⟩ := List.mem_filterMap.1 hl
    obtain ⟨fault, hfault, rfl⟩ := Option.map_eq_some_iff.1 hf
    exact ⟨f, fault, hfault, rfl⟩
  cases hv : (firstHeading (String.ofList cs) formats).value with
  | none =>
    rw [events_firstHeading_of_none hv] at he
    exact hwarning he
  | some h =>
    obtain ⟨before, -, -, -, -, -, hevents⟩ := exists_of_firstHeading_eq_some hv
    rw [hevents] at he
    exact hwarning he

/-- An event that a reader leaves is a last warning, or one of the warnings of a format about the trimmed header. -/
theorem mem_events_wait {reader : HeaderReader} {raw : String} {e : Event} (he : e ∈ (reader.wait (some raw)).events) :
    e = .emptyHeader raw ∨ e = .unrecognizedHeader raw ∨
      ∃ f fault, f.fault? (trim raw.toList) = some fault ∧ e = .unreadable f (String.ofList (trim raw.toList)) fault := by
  rw [wait] at he
  by_cases hnil : trim raw.toList = []
  · rw [heading_of_trim_eq_nil hnil] at he
    exact .inl (List.mem_singleton.1 he)
  · rw [heading_of_trim_ne_nil hnil] at he
    rcases List.mem_append.1 he with he | he
    · exact .inr (.inr (mem_events_firstHeading he))
    · split at he
      · exact .inr (.inl (List.mem_singleton.1 he))
      · exact absurd he List.not_mem_nil

theorem harmless_of_mem_events_wait (reader : HeaderReader) (header : Option String) :
    ∀ e ∈ (reader.wait header).events, e.Harmless header := by
  intro e he
  cases header with
  | none => exact absurd he List.not_mem_nil
  | some raw =>
    rcases mem_events_wait he with rfl | rfl | ⟨f, fault, hfault, rfl⟩
    · exact Event.harmless_emptyHeader raw
    · exact Event.harmless_unrecognizedHeader raw
    · exact Event.harmless_unreadable hfault

/-- A last warning is about one header only: no other header leaves an event with its message. -/
theorem message_ne_of_ne {reader other : HeaderReader} {raw raw' : String} {e e' : Event}
    (he : e ∈ (reader.wait (some raw)).events) (he' : e' ∈ (other.wait (some raw')).events) (hraw : e.showsRaw = true)
    (hne : raw ≠ raw') : e.message ≠ e'.message := by
  intro hmessage
  obtain ⟨opening, hopening, hquotes, hfailed⟩ :
      ∃ opening ∈ Event.openings, e.message = opening ++ quoted raw ∧ opening ≠ "failed to parse Retry-After header " := by
    rcases mem_events_wait he with rfl | rfl | ⟨f, fault, -, rfl⟩
    · exact ⟨_, .head _, rfl, by decide⟩
    · exact ⟨_, .tail _ (.head _), rfl, by decide⟩
    · cases hraw
  rw [hquotes] at hmessage
  rcases mem_events_wait he' with rfl | rfl | ⟨f, fault, -, rfl⟩
  · exact hne (quoted_injective (Event.opening_append_inj hopening (.head _) hmessage).2)
  · exact hne (quoted_injective (Event.opening_append_inj hopening (.tail _ (.head _)) hmessage).2)
  · exact hfailed (Event.opening_append_inj hopening (.tail _ (.tail _ (.head _))) hmessage).1

end HeaderReader

theorem WaitLimit.harmless_of_mem_events_permits (l : WaitLimit) (r : Response) :
    ∀ e ∈ (l.permits r).events, e.Harmless r.retryAfter := by
  have hreader := l.reader.harmless_of_mem_events_wait r.retryAfter
  unfold permits HeaderReader.waitOf
  generalize l.reader.wait r.retryAfter = asked at hreader ⊢
  rcases asked with ⟨_ | d, events⟩
  · exact hreader
  · simp only
    split
    · rw [List.forall_mem_append, List.forall_mem_singleton]
      exact ⟨hreader, Event.harmless_overLimit _ _ _⟩
    · exact hreader

namespace WaitRule

variable {ε : Type}

/-- The header that an attempt was answered with. -/
def headerOf (a : Attempt Response ε) : Option String :=
  a.response?.bind Response.retryAfter

/-- Each layer adds the events of its reader and one of its own. -/
theorem harmless_of_mem_events_pause (rule : WaitRule ε) (attempt : Nat) (a : Attempt Response ε) :
    ∀ e ∈ (rule.pause attempt a).events, e.Harmless (headerOf a) := by
  induction rule with
  | fixed m => exact List.forall_mem_nil _
  | backoff b => exact List.forall_mem_nil _
  | custom f => exact List.forall_mem_nil _
  | honor base reader ih =>
    cases a with
    | failed error => exact ih
    | answered r =>
      have hreader := reader.harmless_of_mem_events_wait r.retryAfter
      rw [pause]
      unfold HeaderReader.waitOf Pause.honoring
      generalize reader.wait r.retryAfter = asked at hreader ⊢
      rcases asked with ⟨_ | d, events⟩
      · exact List.forall_mem_append.2 ⟨ih, hreader⟩
      · simp only [List.forall_mem_append, List.forall_mem_singleton]
        exact ⟨⟨ih, hreader⟩, Event.harmless_honored _ _ _ _ _⟩

end WaitRule

namespace HeaderReader

/-- A header cannot forge the log. Each event that a reader, a limit or a rule with any number of layers leaves about it is
without control characters in its message and in its fields; a warning quotes the header, and digits and a point are all that the
words for a delay show without quotes. Quoted text, of a header or of a name in it, stands between double quotes and has each of
its characters as itself or escaped. Where it ends can be told whatever follows it, and so can what is quoted, so that two headers
that differ never share the message that one of them is empty or not recognized, whichever readers they are given to. -/
theorem headers_cannot_forge_log :
    (∀ (reader : HeaderReader) (header : Option String), ∀ e ∈ (reader.wait header).events, e.Harmless header) ∧
    (∀ (l : WaitLimit) (r : Response), ∀ e ∈ (l.permits r).events, e.Harmless r.retryAfter) ∧
    (∀ (ε : Type) (rule : WaitRule ε) (attempt : Nat) (a : Attempt Response ε),
      ∀ e ∈ (rule.pause attempt a).events, e.Harmless (WaitRule.headerOf a)) ∧
    (∀ text : String, Quotes text (quoted text)) ∧
    (∀ text other rest more : String, quoted text ++ rest = quoted other ++ more → text = other ∧ rest = more) ∧
    (∀ (reader other : HeaderReader) (raw raw' : String), raw ≠ raw' →
      ∀ e ∈ (reader.wait (some raw)).events, ∀ e' ∈ (other.wait (some raw')).events,
        e.showsRaw = true → e.message ≠ e'.message) := by
  refine ⟨harmless_of_mem_events_wait, WaitLimit.harmless_of_mem_events_permits, ?_, quotes_quoted, ?_, ?_⟩
  · intro ε rule
    exact rule.harmless_of_mem_events_pause
  · intro text other rest more
    exact quoted_append_inj
  · intro reader other raw raw' hne e he e' he' hraw
    exact message_ne_of_ne he he' hraw hne

/-- A header that would close its quotes, end its line and clear the screen is shown on one line by a reader, a limit and a layer,
and not like the header that its escapes spell. -/
theorem forged_line_is_shown_escaped :
    let now : ClockTime := ⟨0, 0, by decide, by decide, by decide⟩
    let reader := HeaderReader.ofPreset .extended now
    let limit := WaitLimit.ofSpan ⟨0, by decide⟩ now
    let rule : WaitRule Unit := .honor .abstain reader
    let raw := "\"\r\nWARN \x1b[2J\\"
    let spelled := "\\\"\\r\\nWARN \\u\x7b1b\x7d[2J\\\\"
    let r : Response := ⟨503, fun _ => some raw⟩
    let e := Event.unrecognizedHeader raw
    e.message = "received unrecognized Retry-After header \"\\\"\\r\\nWARN \\u\x7b1b\x7d[2J\\\\\"" ∧
    ((reader.wait (some raw)).events = [e] ∧ e.Harmless (some raw)) ∧
    ((limit.permits r).events = [e] ∧ e.Harmless r.retryAfter) ∧
    ((rule.pause 1 (.answered r)).events = [e] ∧ e.Harmless (WaitRule.headerOf (.answered r : Attempt Response Unit))) ∧
    quoted raw ++ "" ≠ quoted spelled ++ "" ∧ e.message ≠ (Event.unrecognizedHeader spelled).message := by
  intro now reader limit rule raw spelled r e
  obtain ⟨hreaders, hlimits, hrules, -, hquotes, hraws⟩ := headers_cannot_forge_log
  have hne : raw ≠ spelled := by decide
  have hmem : e ∈ [e] := .head _
  have hread : (reader.wait (some raw)).events = [e] := by decide +kernel
  have hother : (reader.wait (some spelled)).events = [.unrecognizedHeader spelled] := by decide +kernel
  have hlimited : (limit.permits r).events = [e] := by decide +kernel
  have hruled : (rule.pause 1 (.answered r)).events = [e] := by decide +kernel
  refine ⟨by decide +kernel, ⟨hread, ?_⟩, ⟨hlimited, ?_⟩, ⟨hruled, ?_⟩, fun h => hne (hquotes _ _ _ _ h).1, ?_⟩
  · exact hreaders reader (some raw) e (hread ▸ hmem)
  · exact hlimits limit r e (hlimited ▸ hmem)
  · exact hrules Unit rule 1 (.answered r) e (hruled ▸ hmem)
  · exact hraws reader reader raw spelled hne e (hread ▸ hmem) _ (hother ▸ .head _) rfl

end HeaderReader

end RetryPolicy
