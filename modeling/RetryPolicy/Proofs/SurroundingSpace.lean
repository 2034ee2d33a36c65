import RetryPolicy.Proofs.FormatLists

/-!
# White space around a header

A reader trims a header before it looks at it, so that white space around a header changes neither the wait that is found nor
what is logged; only a last warning, that the header is empty or not recognized, shows it as it came. The formats themselves
tolerate none: a text with white space at an edge has the shape of no format, although some of them have gaps inside
(`surrounding_white_space_is_ignored`).
-/

namespace RetryPolicy

open Text

namespace Format

/-- A text with white space at an edge is in no format, and no format has anything to say about it. -/
theorem wait_of_white_space_at_edge {f : Format} {text : String}
    (h : (∃ c ∈ text.toList.head?, isWhiteSpace c = true) ∨ ∃ c ∈ text.toList.getLast?, isWhiteSpace c = true)
    (now : ClockTime) : f.wait now text = ⟨none, []⟩ := by
  have hshape : ¬f.hasShape text.toList = true := by
    intro hshape
    have hbare := bare_of_hasShape hshape
    rcases h with ⟨c, hc, hw⟩ | ⟨c, hc, hw⟩
    · rw [hbare.head? c hc] at hw
      cases hw
    · rw [hbare.getLast? c hc] at hw
      cases hw
  have hread : f.read text.toList = none := by
    rwa [hasShape, Option.not_isSome_iff_eq_none] at hshape
  rw [wait, heading, hread]
  rfl

end Format

namespace HeaderReader

/-- How a log of a header may end: with what is found, or with a last warning that shows the header as it came. -/
def endings : List (String → List Event) :=
  [fun _ => [], fun raw => [.emptyHeader raw], fun raw => [.unrecognizedHeader raw]]

/-- What is seen of the end of a log without the header in it does not depend on the header. -/
theorem map_eq_of_mem_endings {α : Type} {see : Event → α}
    (hempty : ∀ raw other, see (.emptyHeader raw) = see (.emptyHeader other))
    (hunrecognized : ∀ raw other, see (.unrecognizedHeader raw) = see (.unrecognizedHeader other))
    {ending : String → List Event} (h : ending ∈ endings) (raw other : String) :
    (ending raw).map see = (ending other).map see := by
  simp only [endings, List.mem_cons, List.not_mem_nil, or_false] at h
  rcases h with rfl | rfl | rfl
  · rfl
  · exact congrArg (fun seen => [seen]) (hempty raw other)
  · exact congrArg (fun seen => [seen]) (hunrecognized raw other)

/-- Two headers that are the same when they are trimmed ask for the same, and only the end of the log tells them apart. -/
theorem heading_of_trim_eq (reader : HeaderReader) {raw other : String} (h : trim raw.toList = trim other.toList) :
    (reader.heading raw).value = (reader.heading other).value ∧
      ∃ warnings, ∃ ending ∈ endings, (reader.heading raw).events = warnings ++ ending raw ∧
        (reader.heading other).events = warnings ++ ending other := by
  by_cases hnil : trim other.toList = []
  · rw [heading_of_trim_eq_nil (h.trans hnil), heading_of_trim_eq_nil hnil]
    exact ⟨rfl, [], fun raw => [.emptyHeader raw], by simp [endings], rfl, rfl⟩
  · have hne : trim raw.toList ≠ [] := by rwa [h]
    rw [heading_of_trim_ne_nil hne, heading_of_trim_ne_nil hnil, h]
    refine ⟨rfl, (firstHeading (String.ofList (trim other.toList)) reader.formats).events, ?_⟩
    by_cases hfound : (firstHeading (String.ofList (trim other.toList)) reader.formats).value = none
    · exact ⟨fun raw => [.unrecognizedHeader raw], by simp [endings], by rw [if_pos hfound], by rw [if_pos hfound]⟩
    · exact ⟨fun _ => [], by simp [endings], by rw [if_neg hfound], by rw [if_neg hfound]⟩

/-- White space around a header never matters to a reader and is never tolerated by a format. With white space before and after it
a header asks for the same wait, and the log has the same warnings of the formats and the same end, in which only a warning that
the header is empty or not recognized shows it as it came; so there are as many events, with the same levels, and with the same
formats and errors in their fields. A text that begins or ends with white space is refused by every format, without an event. -/
theorem surrounding_white_space_is_ignored :
    (∀ (reader : HeaderReader) (before raw after : String), before.toList.all isWhiteSpace = true →
      after.toList.all isWhiteSpace = true →
        (reader.wait (some (before ++ raw ++ after))).value = (reader.wait (some raw)).value ∧
        (∃ warnings, ∃ ending ∈ endings,
          (reader.wait (some (before ++ raw ++ after))).events = warnings ++ ending (before ++ raw ++ after) ∧
            (reader.wait (some raw)).events = warnings ++ ending raw) ∧
        (reader.wait (some (before ++ raw ++ after))).events.length = (reader.wait (some raw)).events.length ∧
        (reader.wait (some (before ++ raw ++ after))).events.map Event.level =
          (reader.wait (some raw)).events.map Event.level ∧
        (reader.wait (some (before ++ raw ++ after))).events.map Event.fields =
          (reader.wait (some raw)).events.map Event.fields) ∧
    (∀ (f : Format) (now : ClockTime) (text : String),
      (∃ c ∈ text.toList.head?, isWhiteSpace c = true) ∨ (∃ c ∈ text.toList.getLast?, isWhiteSpace c = true) →
        f.wait now text = ⟨none, []⟩) := by
  refine ⟨?_, fun f now text h => Format.wait_of_white_space_at_edge h now⟩
  intro reader before raw after hbefore hafter
  have htrim : trim (before ++ raw ++ after).toList = trim raw.toList := by
    rw [String.toList_append, String.toList_append, trim_append hbefore hafter]
  obtain ⟨hheading, warnings, ending, hending, hevents, hother⟩ := reader.heading_of_trim_eq htrim
  have hvalue : (reader.wait (some (before ++ raw ++ after))).value = (reader.wait (some raw)).value :=
    congrArg (Option.map (Heading.wait reader.now)) hheading
  -- the wait logs what the heading does
  change (reader.wait (some (before ++ raw ++ after))).events = _ at hevents
  change (reader.wait (some raw)).events = _ at hother
  have hseen : ∀ {α : Type} (see : Event → α), (∀ raw other, see (.emptyHeader raw) = see (.emptyHeader other)) →
      (∀ raw other, see (.unrecognizedHeader raw) = see (.unrecognizedHeader other)) →
        (reader.wait (some (before ++ raw ++ after))).events.map see = (reader.wait (some raw)).events.map see := by
    intro α see hempty hunrecognized
    rw [hevents, hother, List.map_append, List.map_append, map_eq_of_mem_endings hempty hunrecognized hending]
  have hlevels := hseen Event.level (fun _ _ => rfl) (fun _ _ => rfl)
  have hfields := hseen Event.fields (fun _ _ => rfl) (fun _ _ => rfl)
  have hlength := congrArg List.length hlevels
  rw [List.length_map, List.length_map] at hlength
  exact ⟨hvalue, ⟨warnings, ending, hending, hevents, hother⟩, hlength, hlevels, hfields⟩

/-- A delay that is too long for both formats leaves its three warnings behind an ideographic space and before a next-line
character as well, and a date of `asctime` is refused behind an em space, although its gaps may be of any width. -/
theorem long_delay_between_spaces :
    let now : ClockTime := ⟨0, 0, by decide, by decide, by decide⟩
    let reader := HeaderReader.mk [.decimalSeconds, .wholeSeconds] now
    ((reader.wait (some ("\u3000\t" ++ "18446744073709551616" ++ "\u0085\n"))).value = none ∧
      (reader.wait (some ("\u3000\t" ++ "18446744073709551616" ++ "\u0085\n"))).events.map Event.fields =
        [[("format", "decimal-seconds"), ("error", "delay of 18446744073709551616 seconds is too large")],
          [("format", "strict-seconds"), ("error", "delay of 18446744073709551616 seconds is too large")], []]) ∧
    Format.asctime.wait now "\u2003Thu Jan  2 01:23:45 2003" = ⟨none, []⟩ := by
  intro now reader
  obtain ⟨hreaders, hformats⟩ := surrounding_white_space_is_ignored
  obtain ⟨hvalue, -, -, -, hfields⟩ := hreaders reader "\u3000\t" "18446744073709551616" "\u0085\n" (by decide) (by decide)
  refine ⟨⟨?_, ?_⟩, hformats .asctime now _ (.inl ⟨'\u2003', by decide, by decide⟩)⟩
  · rw [hvalue]
    decide +kernel
  · rw [hfields]
    decide +kernel

end HeaderReader

end RetryPolicy
