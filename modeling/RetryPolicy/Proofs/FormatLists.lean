import RetryPolicy.Proofs.Clock
import RetryPolicy.Proofs.Shapes

/-!
# The order of the formats does not matter

A reader takes the first of its formats that can read a header. The shapes of the formats do not overlap, the delays
apart, and those agree; so what is found is what any of the formats finds (`value_heading_iff`), wherever in the list it
stands. Then a reader with more formats finds at least the waits of a reader with fewer.
-/

namespace RetryPolicy

open Text

namespace HeaderReader

/-- The first format that can read a text finds what any format of the list finds. -/
theorem value_firstHeading_eq_some_iff {text : String} {formats : List Format} {h : Heading} :
    (firstHeading text formats).value = some h ↔ ∃ f ∈ formats, (f.heading text).value = some h := by
  induction formats with
  | nil => simp [firstHeading]
  | cons f fs ih =>
    have hcons : (∃ g ∈ f :: fs, (g.heading text).value = some h) ↔
        (f.heading text).value = some h ∨ ∃ g ∈ fs, (g.heading text).value = some h := by
      simp
    rw [hcons, ← ih, firstHeading]
    cases hf : f.heading text with
    | mk value events =>
      cases value with
      | none => simp
      | some k =>
        constructor
        · exact .inl
        · rintro (hk | hk)
          · exact hk
          · obtain ⟨g, -, hg⟩ := ih.1 hk
            exact congrArg some (Format.heading_unique (by rw [hf]) hg)

/-- A reader finds in a header what any of its formats finds in the trimmed text. -/
theorem value_heading_iff {reader : HeaderReader} {raw : String} {h : Heading} :
    (reader.heading raw).value = some h ↔
      ∃ f ∈ reader.formats, (f.heading (String.ofList (trim raw.toList))).value = some h := by
  rw [← value_firstHeading_eq_some_iff]
  by_cases ht : trim raw.toList = []
  · -- no format has the empty text, so that nothing is lost where none of them is asked
    have hnone : ¬(firstHeading (String.ofList []) reader.formats).value = some h := by
      rw [value_firstHeading_eq_some_iff]
      rintro ⟨f, -, hf⟩
      rw [Format.value_heading_eq_some_iff] at hf
      exact (Format.bare_of_hasShape (Format.hasShape_of_read hf)).ne_nil rfl
    rw [heading_of_trim_eq_nil ht, ht]
    exact ⟨nofun, fun hh => absurd hh hnone⟩
  · rw [heading_of_trim_ne_nil ht]

/-- A reader finds in a header what any of its formats reads in the trimmed text without a fault. -/
theorem value_heading_iff_read {reader : HeaderReader} {raw : String} {h : Heading} :
    (reader.heading raw).value = some h ↔ ∃ f ∈ reader.formats, f.read (trim raw.toList) = some (.ok h) := by
  rw [value_heading_iff]
  simp only [Format.value_heading_eq_some_iff, String.toList_ofList]

/-- The wait for what one of the formats reads in the trimmed text is the wait that the reader finds. -/
theorem value_wait_of_read_trim {reader : HeaderReader} {f : Format} (hf : f ∈ reader.formats) {raw : String} {h : Heading}
    (hr : f.read (trim raw.toList) = some (.ok h)) : (reader.wait (some raw)).value = some (h.wait reader.now) :=
  value_wait_eq_some_iff.2 ⟨raw, h, rfl, value_heading_iff_read.2 ⟨f, hf, hr⟩, rfl⟩

/-- A reader finds the wait that any of its formats finds. -/
theorem value_wait_iff {formats : List Format} {now : ClockTime} {header : Option String} {d : Span} :
    ((HeaderReader.mk formats now).wait header).value = some d ↔
      ∃ raw, header = some raw ∧ ∃ f ∈ formats, (f.wait now (String.ofList (trim raw.toList))).value = some d := by
  rw [value_wait_eq_some_iff]
  constructor
  · rintro ⟨raw, h, rfl, hh, rfl⟩
    obtain ⟨f, hf, hr⟩ := value_heading_iff.1 hh
    refine ⟨raw, rfl, f, hf, ?_⟩
    rw [Format.wait, hr, Option.map_some]
  · rintro ⟨raw, rfl, f, hf, hw⟩
    rw [Format.wait, Option.map_eq_some_iff] at hw
    obtain ⟨h, hr, hd⟩ := hw
    exact ⟨raw, h, rfl, value_heading_iff.2 ⟨f, hf, hr⟩, hd⟩

/-- A wait that is found with some formats is found with more. -/
theorem value_wait_of_subset {formats more : List Format} (hs : ∀ f ∈ formats, f ∈ more) {now : ClockTime}
    {header : Option String} {d : Span} (hd : ((HeaderReader.mk formats now).wait header).value = some d) :
    ((HeaderReader.mk more now).wait header).value = some d := by
  obtain ⟨raw, hraw, f, hf, hw⟩ := value_wait_iff.1 hd
  exact value_wait_iff.2 ⟨raw, hraw, f, hs f hf, hw⟩

/-- The wait that a reader finds depends on which formats it has, and on nothing else of its list. It is the wait that any of
them finds; more formats find the same waits and perhaps others; a list with the same formats in another order, or with
some of them more than once, finds the same; and the reader of every format finds what the reader of any preset finds. -/
theorem wait_depends_on_set_of_formats (now : ClockTime) (header : Option String) :
    (∀ (formats : List Format) (d : Span), ((HeaderReader.mk formats now).wait header).value = some d ↔
      ∃ raw, header = some raw ∧ ∃ f ∈ formats, (f.wait now (String.ofList (trim raw.toList))).value = some d) ∧
    (∀ formats more : List Format, (∀ f ∈ formats, f ∈ more) →
      ∀ d, ((HeaderReader.mk formats now).wait header).value = some d →
        ((HeaderReader.mk more now).wait header).value = some d) ∧
    (∀ formats others : List Format, (∀ f, f ∈ formats ↔ f ∈ others) →
      ((HeaderReader.mk formats now).wait header).value = ((HeaderReader.mk others now).wait header).value) ∧
    (∀ (p : Preset) (d : Span), ((ofPreset p now).wait header).value = some d →
      ((ofPreset .extended now).wait header).value = some d) := by
  refine ⟨fun formats d => value_wait_iff, fun formats more hs d hd => value_wait_of_subset hs hd, ?_, ?_⟩
  · intro formats others hs
    apply Option.ext
    intro d
    exact ⟨value_wait_of_subset fun f hf => (hs f).1 hf, value_wait_of_subset fun f hf => (hs f).2 hf⟩
  · intro p d hd
    exact value_wait_of_subset (fun f _ => f.mem_all) hd

/-- A delay that is too long for decimal seconds is read in whole seconds, also when these are tried last. -/
theorem wait_of_long_delay :
    let now : ClockTime := ⟨0, 0, by decide, by decide, by decide⟩
    let formats := [Format.wholeSeconds]
    let more := [Format.decimalSeconds, .iso8601, .decimalSeconds, .wholeSeconds]
    (∀ f ∈ formats, f ∈ more) ∧
      ∃ d, ((HeaderReader.mk formats now).wait (some " 18446744073709552 ")).value = some d ∧
        ((HeaderReader.mk more now).wait (some " 18446744073709552 ")).value = some d := by
  intro now formats more
  have hs : ∀ f ∈ formats, f ∈ more := by decide
  have hd : ((HeaderReader.mk formats now).wait (some " 18446744073709552 ")).value =
      some ⟨18446744073709552 * 1000000000, by decide⟩ := by
    decide +kernel
  exact ⟨hs, _, hd, (wait_depends_on_set_of_formats now _).2.1 formats more hs _ hd⟩

end HeaderReader

end RetryPolicy
