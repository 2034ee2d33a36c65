import RetryPolicy.Event
import RetryPolicy.Header.AsctimeText
import RetryPolicy.Header.ImfText
import RetryPolicy.Header.IsoText
import RetryPolicy.Header.Rfc850Text
import RetryPolicy.Header.Seconds
import RetryPolicy.Response
import RetryPolicy.Text.Trim
import RetryPolicy.Time.ClockTime

/-!
# Reading a Retry-After header

A `HeaderReader` is a list of formats and the clock time that dates are measured from. It offers the trimmed header to
the formats in turn and the first that can read it gives the wait. What a format reads does not depend on the clock: a
`Heading` is a delay or a date, and only `Heading.wait` measures a date, so that one that has passed asks for no wait.
-/

namespace RetryPolicy

open Text Header

/-- What a header asks for. -/
inductive Heading where
  /-- To wait so long. -/
  | delay (d : Span)
  /-- To wait until then. -/
  | date (t : Instant)
  deriving DecidableEq

/-- The wait from now on. -/
def Heading.wait (now : ClockTime) : Heading → Span
  | delay d => d
  | date t => t.since now

namespace Format

/-- What a text says in the format. -/
def read (f : Format) (cs : List Char) : Reading Heading :=
  match f with
  | wholeSeconds => (Header.wholeSeconds cs).map (·.map .delay)
  | decimalSeconds => (Header.decimalSeconds cs).map (·.map .delay)
  | imfFixdate => (Header.imfFixdate cs).map (·.map .date)
  | rfc850 => (Header.rfc850 cs).map (·.map .date)
  | asctime => (Header.asctime cs).map (·.map .date)
  | iso8601 => (Header.iso8601 cs).map (·.map .date)

/-- The text has the shape of the format. -/
def hasShape (f : Format) (cs : List Char) : Bool :=
  (f.read cs).isSome

/-- What a text asks for in the format. A text of the right shape that cannot be read leaves a warning. -/
def heading (f : Format) (text : String) : Logged (Option Heading) :=
  match f.read text.toList with
  | none => ⟨none, []⟩
  | some (.ok h) => ⟨some h, []⟩
  | some (.error fault) => ⟨none, [.unreadable f text fault]⟩

/-- A format finds what it reads without a fault. -/
theorem value_heading_eq_some_iff {f : Format} {text : String} {h : Heading} :
    (f.heading text).value = some h ↔ f.read text.toList = some (.ok h) := by
  unfold heading
  rcases f.read text.toList with _ | _ | h'
  · simp
  · simp
  · simp

/-- What is wrong with a text that has the shape of the format and cannot be read in it. -/
def fault? (f : Format) (cs : List Char) : Option Fault :=
  match f.read cs with
  | some (.error fault) => some fault
  | _ => none

theorem fault?_eq_some_iff {f : Format} {cs : List Char} {fault : Fault} :
    f.fault? cs = some fault ↔ f.read cs = some (.error fault) := by
  unfold fault?
  rcases f.read cs with _ | other | h
  · simp
  · simp
  · simp

/-- A format leaves one warning for a fault and nothing else. -/
theorem events_heading (f : Format) (text : String) :
    (f.heading text).events = ((f.fault? text.toList).map (Event.unreadable f text)).toList := by
  unfold heading fault?
  rcases f.read text.toList with _ | fault | h
  · rfl
  · rfl
  · rfl

/-- A format leaves warnings and nothing else. -/
theorem level_of_mem_events_heading (f : Format) (text : String) : ∀ e ∈ (f.heading text).events, e.level = .warn := by
  unfold heading
  rcases f.read text.toList with _ | fault | h
  · exact List.forall_mem_nil _
  · intro e he
    obtain rfl := List.mem_singleton.1 he
    rfl
  · exact List.forall_mem_nil _

/-- The wait that a text asks for in the format. -/
def wait (f : Format) (now : ClockTime) (text : String) : Logged (Option Span) :=
  ⟨(f.heading text).value.map (Heading.wait now), (f.heading text).events⟩

end Format

/-- The formats that headers may be in, and the clock time that dates are measured from. -/
structure HeaderReader where
  formats : List Format
  now : ClockTime
  deriving DecidableEq

namespace HeaderReader

/-- The reader of a preset's formats. -/
def ofPreset (p : Preset) (now : ClockTime) : HeaderReader := ⟨p.formats, now⟩

/-- The reader of the same formats that measures dates from another clock time. -/
def withClock (reader : HeaderReader) (now : ClockTime) : HeaderReader := { reader with now }

/-- What the first of the formats that can read the text finds in it, with the warnings of those before. -/
def firstHeading (text : String) : List Format → Logged (Option Heading)
  | [] => ⟨none, []⟩
  | f :: fs =>
    match f.heading text with
    | ⟨some h, events⟩ => ⟨some h, events⟩
    | ⟨none, events⟩ => ⟨(firstHeading text fs).value, events ++ (firstHeading text fs).events⟩

/-- What a header asks for. -/
def heading (reader : HeaderReader) (raw : String) : Logged (Option Heading) :=
  match trim raw.toList with
  | [] => ⟨none, [.emptyHeader raw]⟩
  | text =>
    match firstHeading (String.ofList text) reader.formats with
    | ⟨some h, events⟩ => ⟨some h, events⟩
    | ⟨none, events⟩ => ⟨none, events ++ [.unrecognizedHeader raw]⟩

theorem heading_of_trim_eq_nil {reader : HeaderReader} {raw : String} (h : trim raw.toList = []) :
    reader.heading raw = ⟨none, [.emptyHeader raw]⟩ := by
  rw [heading, h]

/-- A header that has something in it leaves the warnings of the formats, and one more if none of them reads it. -/
theorem heading_of_trim_ne_nil {reader : HeaderReader} {raw : String} (h : trim raw.toList ≠ []) :
    reader.heading raw =
      ⟨(firstHeading (String.ofList (trim raw.toList)) reader.formats).value,
        (firstHeading (String.ofList (trim raw.toList)) reader.formats).events ++
          if (firstHeading (String.ofList (trim raw.toList)) reader.formats).value = none then [.unrecognizedHeader raw]
          else []⟩ := by
  rw [heading]
  cases ht : trim raw.toList with
  | nil => exact absurd ht h
  | cons c cs =>
    simp only
    rcases firstHeading (String.ofList (c :: cs)) reader.formats with ⟨_ | k, events⟩
    · rfl
    · simp

/-- The wait that a header asks for. A header that is missing asks for nothing and leaves no event. -/
def wait (reader : HeaderReader) (header : Option String) : Logged (Option Span) :=
  match header with
  | none => ⟨none, []⟩
  | some raw => ⟨(reader.heading raw).value.map (Heading.wait reader.now), (reader.heading raw).events⟩

theorem level_of_mem_events_firstHeading (text : String) (formats : List Format) :
    ∀ e ∈ (firstHeading text formats).events, e.level = .warn := by
  induction formats with
  | nil => exact List.forall_mem_nil _
  | cons f fs ih =>
    have hf := f.level_of_mem_events_heading text
    rw [firstHeading]
    generalize f.heading text = found at hf ⊢
    rcases found with ⟨_ | h, events⟩
    · exact List.forall_mem_append.2 ⟨hf, ih⟩
    · exact hf

/-- A reader leaves warnings and nothing else. -/
theorem level_of_mem_events_heading (reader : HeaderReader) (raw : String) :
    ∀ e ∈ (reader.heading raw).events, e.level = .warn := by
  by_cases h : trim raw.toList = []
  · rw [heading_of_trim_eq_nil h]
    exact List.forall_mem_singleton.2 rfl
  · rw [heading_of_trim_ne_nil h, List.forall_mem_append]
    refine ⟨level_of_mem_events_firstHeading _ _, ?_⟩
    split
    · exact List.forall_mem_singleton.2 rfl
    · exact List.forall_mem_nil _

theorem level_of_mem_events_wait (reader : HeaderReader) (header : Option String) :
    ∀ e ∈ (reader.wait header).events, e.level = .warn := by
  cases header with
  | none => exact List.forall_mem_nil _
  | some raw => exact reader.level_of_mem_events_heading raw

/-- The wait that the Retry-After header of a response asks for. -/
def waitOf (reader : HeaderReader) (r : Response) : Logged (Option Span) :=
  reader.wait r.retryAfter

/-- The reader on one line; its clock is not shown. -/
def describe (reader : HeaderReader) : String :=
  "RetryAfterParser \x7b formats: [" ++ ", ".intercalate (reader.formats.map Format.label) ++ "], .. \x7d"

end HeaderReader

end RetryPolicy
