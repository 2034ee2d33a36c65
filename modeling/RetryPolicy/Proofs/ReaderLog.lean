import Mathlib.Algebra.Group.Nat.Defs
import RetryPolicy.Proofs.FormatLists

/-!
# What a reader leaves in the log

A header of white space leaves one warning that it is empty, and a header that no format reads leaves one that it is not
recognized, behind the warnings of the formats that it has the shape of. A header that is read leaves nothing, with one exception:
a number of seconds of which the milliseconds do not fit in 64 bits is read in whole seconds, and decimal seconds that are tried
before leave a warning each time (`log_of_header_is_exact`).

The reason is that shapes do not overlap, the two delays apart, so that two formats have something to say about one text only if
it is a delay. A format list without repetition then leaves one warning at most before it gives up, or two about a number of
seconds that is too long for both.
-/

namespace RetryPolicy

open Text

/-! ## Lists -/

theorem filterMap_cons_eq_append {α β : Type} (f : α → Option β) (a : α) (l : List α) :
    (a :: l).filterMap f = (f a).toList ++ l.filterMap f := by
  rw [List.filterMap_cons]
  cases f a with
  | none => rfl
  | some b => rfl

/-- A list of which one element alone yields something yields it as often as it has the element. -/
theorem filterMap_eq_replicate_count {α β : Type} [BEq α] [LawfulBEq α] {f : α → Option β} {l : List α} {a : α} {b : β}
    (ha : f a = some b) (hother : ∀ x ∈ l, x ≠ a → f x = none) : l.filterMap f = List.replicate (l.count a) b := by
  induction l with
  | nil => rfl
  | cons x l ih =>
    have htail := ih fun y hy => hother y (List.mem_cons_of_mem x hy)
    by_cases hx : x = a
    · rw [hx, List.filterMap_cons_some ha, List.count_cons_self, List.replicate_succ, htail]
    · rw [List.filterMap_cons_none (hother x List.mem_cons_self hx), List.count_cons_of_ne hx, htail]

/-- A list without repetition of which all elements are the same has one at most. -/
theorem length_le_one_of_nodup {α : Type} {l : List α} (hn : l.Nodup) (h : ∀ a ∈ l, ∀ b ∈ l, a = b) : l.length ≤ 1 := by
  match l with
  | [] => exact Nat.zero_le 1
  | [_] => exact Nat.le_refl 1
  | a :: b :: l =>
    have hab := h a List.mem_cons_self b (List.mem_cons_of_mem a List.mem_cons_self)
    rw [hab, List.nodup_cons] at hn
    exact absurd List.mem_cons_self hn.1

/-! ## Faults of delays -/

namespace Format

open Header

/-- A delay that fits in 64 bits in seconds and not in milliseconds. -/
def FitsInSecondsOnly (cs : List Char) : Prop :=
  cs.all Char.isDigit = true ∧ 18446744073709552 ≤ value cs ∧ value cs ≤ 2 ^ 64 - 1

/-- A delay that does not fit in 64 bits in seconds. -/
def FitsInNeither (cs : List Char) : Prop :=
  cs.all Char.isDigit = true ∧ 2 ^ 64 - 1 < value cs

theorem hasShape_wholeSeconds_of_pos {cs : List Char} (hd : cs.all Char.isDigit = true) (h : 0 < value cs) :
    wholeSeconds.hasShape cs = true := by
  refine hasShape_wholeSeconds_iff.2 ⟨?_, hd⟩
  rintro rfl
  exact absurd h (by decide)

theorem FitsInSecondsOnly.hasShape {cs : List Char} (h : FitsInSecondsOnly cs) : wholeSeconds.hasShape cs = true := by
  obtain ⟨hd, hlong, -⟩ := h
  exact hasShape_wholeSeconds_of_pos hd (by omega)

theorem FitsInNeither.hasShape {cs : List Char} (h : FitsInNeither cs) : wholeSeconds.hasShape cs = true := by
  obtain ⟨hd, hlong⟩ := h
  exact hasShape_wholeSeconds_of_pos hd (by omega)

/-- A format that reads a text finds no fault in it. -/
theorem fault?_of_read {f : Format} {cs : List Char} {h : Heading} (hf : f.read cs = some (.ok h)) : f.fault? cs = none := by
  rw [fault?, hf]

theorem hasShape_of_fault? {f : Format} {cs : List Char} {fault : Fault} (hf : f.fault? cs = some fault) :
    f.hasShape cs = true :=
  hasShape_of_read (fault?_eq_some_iff.1 hf)

theorem fault?_wholeSeconds_eq_some_iff {cs : List Char} {fault : Fault} :
    wholeSeconds.fault? cs = some fault ↔ FitsInNeither cs ∧ fault = .tooLong (String.ofList cs) := by
  have hread : wholeSeconds.hasShape cs = true →
      (wholeSeconds.fault? cs = some fault ↔ 2 ^ 64 ≤ value cs ∧ fault = .tooLong (String.ofList cs)) := by
    intro hshape
    obtain ⟨hne, hd⟩ := hasShape_wholeSeconds_iff.1 hshape
    rw [fault?_eq_some_iff, read, map_eq_error_iff, wholeSeconds_of_digits hne hd, Option.some.injEq, orFault_eq_error_iff,
      Span.ofSeconds?_eq_none_iff]
    exact and_congr Iff.rfl eq_comm
  constructor
  · intro h
    have hshape := hasShape_of_fault? h
    obtain ⟨hle, rfl⟩ := (hread hshape).1 h
    exact ⟨⟨(hasShape_wholeSeconds_iff.1 hshape).2, by omega⟩, rfl⟩
  · rintro ⟨hlong, rfl⟩
    have hlt := hlong.2
    exact (hread hlong.hasShape).2 ⟨by omega, rfl⟩

/-- Digits alone are too long for decimal seconds sooner than for whole ones. -/
theorem fault?_decimalSeconds_of_hasShape {cs : List Char} (h : wholeSeconds.hasShape cs = true) {fault : Fault} :
    decimalSeconds.fault? cs = some fault ↔ 18446744073709552 ≤ value cs ∧ fault = .tooLong (String.ofList cs) := by
  obtain ⟨hne, hd⟩ := hasShape_wholeSeconds_iff.1 h
  rw [fault?_eq_some_iff, read, map_eq_error_iff, decimalSeconds_of_digits hne hd, Option.some.injEq, orFault_eq_error_iff,
    Option.map_eq_none_iff, Millis.ofNat?_eq_none_iff]
  constructor
  · rintro ⟨hle, rfl⟩
    exact ⟨by omega, rfl⟩
  · rintro ⟨hle, rfl⟩
    exact ⟨by omega, rfl⟩

theorem FitsInSecondsOnly.fault? {cs : List Char} (h : FitsInSecondsOnly cs) :
    decimalSeconds.fault? cs = some (.tooLong (String.ofList cs)) :=
  (fault?_decimalSeconds_of_hasShape h.hasShape).2 ⟨h.2.1, rfl⟩

theorem FitsInNeither.fault? {cs : List Char} (h : FitsInNeither cs) :
    decimalSeconds.fault? cs = some (.tooLong (String.ofList cs)) := by
  have hlt := h.2
  exact (fault?_decimalSeconds_of_hasShape h.hasShape).2 ⟨by omega, rfl⟩

/-- Digits have the shapes of the two delays and no other. -/
theorem eq_delay_of_hasShape {f : Format} {cs : List Char} (h : wholeSeconds.hasShape cs = true)
    (hf : f.hasShape cs = true) : f = wholeSeconds ∨ f = decimalSeconds := by
  rcases widest_eq_iff.1 (widest_eq_of_hasShape hf h) with rfl | ⟨rfl, -⟩ | ⟨rfl, -⟩
  · exact .inl rfl
  · exact .inl rfl
  · exact .inr rfl

/-- One format reads what another finds a fault in only if it is a delay in seconds that do not fit in milliseconds. -/
theorem fault?_of_read_in_other {f g : Format} {cs : List Char} {h : Heading} {fault : Fault}
    (hf : f.read cs = some (.ok h)) (hg : g.fault? cs = some fault) :
    f = wholeSeconds ∧ g = decimalSeconds ∧ FitsInSecondsOnly cs := by
  have hnone := fault?_of_read hf
  rcases widest_eq_iff.1 (widest_eq_of_hasShape (hasShape_of_read hf) (hasShape_of_fault? hg)) with
    rfl | ⟨rfl, rfl⟩ | ⟨rfl, rfl⟩
  · rw [hnone] at hg
    cases hg
  · have hfits : ¬FitsInNeither cs := by
      intro hlong
      rw [fault?_wholeSeconds_eq_some_iff.2 ⟨hlong, rfl⟩] at hnone
      cases hnone
    obtain ⟨-, hd⟩ := hasShape_wholeSeconds_iff.1 (hasShape_of_read hf)
    obtain ⟨hlong, -⟩ := (fault?_decimalSeconds_of_hasShape (hasShape_of_read hf)).1 hg
    exact ⟨rfl, rfl, hd, hlong, Nat.le_of_not_lt fun hlt => hfits ⟨hd, hlt⟩⟩
  · rw [(fault?_wholeSeconds_eq_some_iff.1 hg).1.fault?] at hnone
    cases hnone

/-- Two formats find a fault in one text only if it is a delay in seconds that do not fit. -/
theorem fault?_in_both {f g : Format} {cs : List Char} {fault other : Fault} (hf : f.fault? cs = some fault)
    (hg : g.fault? cs = some other) :
    f = g ∨ FitsInNeither cs ∧ (f = wholeSeconds ∧ g = decimalSeconds ∨ f = decimalSeconds ∧ g = wholeSeconds) := by
  rcases widest_eq_iff.1 (widest_eq_of_hasShape (hasShape_of_fault? hf) (hasShape_of_fault? hg)) with
    rfl | ⟨rfl, rfl⟩ | ⟨rfl, rfl⟩
  · exact .inl rfl
  · exact .inr ⟨(fault?_wholeSeconds_eq_some_iff.1 hf).1, .inl ⟨rfl, rfl⟩⟩
  · exact .inr ⟨(fault?_wholeSeconds_eq_some_iff.1 hg).1, .inr ⟨rfl, rfl⟩⟩

/-- The warning that the format leaves about a text, if it leaves one. -/
def warning? (cs : List Char) (f : Format) : Option Event :=
  (f.fault? cs).map (Event.unreadable f (String.ofList cs))

theorem isSome_warning? {cs : List Char} {f : Format} : (f.warning? cs).isSome = true ↔ ∃ fault, f.fault? cs = some fault := by
  rw [warning?, Option.isSome_map, Option.isSome_iff_exists]

theorem events_heading_ofList (f : Format) (cs : List Char) :
    (f.heading (String.ofList cs)).events = (f.warning? cs).toList := by
  rw [events_heading, String.toList_ofList, warning?]

end Format

/-! ## The warnings of a list of formats -/

namespace HeaderReader

open Format

/-- Where no format reads the text, each leaves its warning. -/
theorem events_firstHeading_of_none {cs : List Char} {formats : List Format}
    (h : (firstHeading (String.ofList cs) formats).value = none) :
    (firstHeading (String.ofList cs) formats).events = formats.filterMap (warning? cs) := by
  induction formats with
  | nil => rfl
  | cons f fs ih =>
    have hevents := f.events_heading_ofList cs
    rw [firstHeading] at h ⊢
    generalize f.heading (String.ofList cs) = found at h hevents ⊢
    rcases found with ⟨_ | k, events⟩
    · simp only at h hevents ⊢
      rw [ih h, hevents, filterMap_cons_eq_append]
    · cases h

/-- Where a format reads the text, those before it, which do not, leave their warnings. -/
theorem exists_of_firstHeading_eq_some {cs : List Char} {formats : List Format} {h : Heading}
    (hv : (firstHeading (String.ofList cs) formats).value = some h) :
    ∃ before f after, formats = before ++ f :: after ∧ f.read cs = some (.ok h) ∧
      (∀ g ∈ before, ∀ k, g.read cs ≠ some (.ok k)) ∧
      (firstHeading (String.ofList cs) formats).events = before.filterMap (warning? cs) := by
  induction formats with
  | nil => cases hv
  | cons f fs ih =>
    have hevents := f.events_heading_ofList cs
    have hread : ∀ k, (f.heading (String.ofList cs)).value = some k ↔ f.read cs = some (.ok k) := by
      intro k
      rw [value_heading_eq_some_iff, String.toList_ofList]
    rw [firstHeading] at hv ⊢
    generalize f.heading (String.ofList cs) = found at hv hevents hread ⊢
    rcases found with ⟨_ | k, events⟩
    · obtain ⟨before, g, after, rfl, hg, hbefore, htail⟩ := ih hv
      refine ⟨f :: before, g, after, rfl, hg, ?_, ?_⟩
      · rw [List.forall_mem_cons]
        exact ⟨fun k hk => Option.some_ne_none k ((hread k).2 hk).symm, hbefore⟩
      · simp only at hevents ⊢
        rw [htail, hevents, filterMap_cons_eq_append]
    · cases hv
      have hf := (hread h).1 rfl
      refine ⟨[], f, fs, rfl, hf, by simp, ?_⟩
      rw [warning?, fault?_of_read hf] at hevents
      exact hevents

/-! ## A header that is read -/

/-- The warning that decimal seconds leave about a delay that is too long for them. -/
def overflow (cs : List Char) : Event :=
  .unreadable decimalSeconds (String.ofList cs) (.tooLong (String.ofList cs))

/-- Of digits that fit in seconds only, the formats that are not for whole seconds say nothing, decimal seconds apart. -/
theorem warnings_of_fitsInSecondsOnly {cs : List Char} (h : FitsInSecondsOnly cs) {formats : List Format}
    (hf : ∀ f ∈ formats, f ≠ wholeSeconds) :
    formats.filterMap (warning? cs) = List.replicate (formats.count decimalSeconds) (overflow cs) := by
  apply filterMap_eq_replicate_count
  · rw [warning?, h.fault?]
    rfl
  · intro f hmem hother
    rw [← Option.not_isSome_iff_eq_none, isSome_warning?]
    rintro ⟨fault, hfault⟩
    rcases eq_delay_of_hasShape h.hasShape (hasShape_of_fault? hfault) with hwhole | hdecimal
    · exact hf f hmem hwhole
    · exact hother hdecimal

/-- The warnings of the formats that are tried before one that reads the text: decimal seconds that overflow, and no others. -/
theorem events_firstHeading_of_some {cs : List Char} {formats : List Format} {h : Heading}
    (hv : (firstHeading (String.ofList cs) formats).value = some h) :
    (FitsInSecondsOnly cs → (firstHeading (String.ofList cs) formats).events =
      List.replicate ((formats.takeWhile (· ≠ wholeSeconds)).count decimalSeconds) (overflow cs)) ∧
    (¬FitsInSecondsOnly cs → (firstHeading (String.ofList cs) formats).events = []) := by
  obtain ⟨before, f, after, rfl, hf, hbefore, hevents⟩ := exists_of_firstHeading_eq_some hv
  rw [hevents]
  constructor
  · intro hfits
    -- decimal seconds do not read the text and the dates are of other shapes
    have hwhole : f = wholeSeconds := by
      rcases eq_delay_of_hasShape hfits.hasShape (hasShape_of_read hf) with hwhole | rfl
      · exact hwhole
      · have hfault := hfits.fault?
        rw [fault?_of_read hf] at hfault
        cases hfault
    have hother : ∀ g ∈ before, g ≠ wholeSeconds := by
      rintro g hg rfl
      exact hbefore wholeSeconds hg h (hwhole ▸ hf)
    have htake : (before ++ f :: after).takeWhile (· ≠ wholeSeconds) = before := by
      rw [List.takeWhile_append_of_pos fun g hg => decide_eq_true (hother g hg), hwhole,
        List.takeWhile_cons_of_neg (by decide), List.append_nil]
    rw [htake, warnings_of_fitsInSecondsOnly hfits hother]
  · intro hfits
    rw [List.filterMap_eq_nil_iff]
    intro g _
    rw [← Option.not_isSome_iff_eq_none, isSome_warning?]
    rintro ⟨fault, hfault⟩
    exact hfits (fault?_of_read_in_other hf hfault).2.2

/-! ## A header that no format reads -/

/-- Two formats leave warnings about a text that no delay format finds too long only if they are the same. -/
theorem length_warnings_le_one {cs : List Char} {formats : List Format} (hn : formats.Nodup)
    (hlong : ¬(FitsInNeither cs ∧ wholeSeconds ∈ formats ∧ decimalSeconds ∈ formats)) :
    (formats.filterMap (warning? cs)).length ≤ 1 := by
  rw [List.length_filterMap_eq_countP, List.countP_eq_length_filter]
  apply length_le_one_of_nodup (hn.sublist List.filter_sublist)
  intro f hf g hg
  rw [List.mem_filter, isSome_warning?] at hf hg
  obtain ⟨hfmem, fault, hfault⟩ := hf
  obtain ⟨hgmem, other, hother⟩ := hg
  rcases fault?_in_both hfault hother with heq | ⟨hneither, ⟨rfl, rfl⟩ | ⟨rfl, rfl⟩⟩
  · exact heq
  · exact absurd ⟨hneither, hfmem, hgmem⟩ hlong
  · exact absurd ⟨hneither, hgmem, hfmem⟩ hlong

/-- A delay that is too long for both formats leaves the warnings of both. -/
theorem length_warnings_eq_two {cs : List Char} {formats : List Format} (hn : formats.Nodup) (hlong : FitsInNeither cs)
    (hwhole : wholeSeconds ∈ formats) (hdecimal : decimalSeconds ∈ formats) :
    (formats.filterMap (warning? cs)).length = 2 := by
  have hmem : ∀ f, f ∈ formats.filter (fun f => (f.warning? cs).isSome) ↔ f ∈ [wholeSeconds, decimalSeconds] := by
    intro f
    rw [List.mem_filter, isSome_warning?, List.mem_cons, List.mem_singleton]
    constructor
    · rintro ⟨-, fault, hfault⟩
      exact eq_delay_of_hasShape hlong.hasShape (hasShape_of_fault? hfault)
    · rintro (rfl | rfl)
      · exact ⟨hwhole, _, fault?_wholeSeconds_eq_some_iff.2 ⟨hlong, rfl⟩⟩
      · exact ⟨hdecimal, _, hlong.fault?⟩
  have hperm := (List.perm_ext_iff_of_nodup (hn.sublist List.filter_sublist) (by decide)).2 hmem
  rw [List.length_filterMap_eq_countP, List.countP_eq_length_filter, hperm.length_eq]
  rfl

/-! ## The log of a header -/

theorem events_wait_of_none {reader : HeaderReader} {raw : String} (hne : trim raw.toList ≠ [])
    (hv : (reader.wait (some raw)).value = none) :
    (reader.wait (some raw)).events =
      reader.formats.filterMap (warning? (trim raw.toList)) ++ [.unrecognizedHeader raw] := by
  simp only [wait, heading_of_trim_ne_nil hne, Option.map_eq_none_iff] at hv ⊢
  rw [if_pos hv, events_firstHeading_of_none hv]

theorem events_wait_of_some {reader : HeaderReader} {raw : String} (hv : (reader.wait (some raw)).value ≠ none) :
    (FitsInSecondsOnly (trim raw.toList) → (reader.wait (some raw)).events =
      List.replicate ((reader.formats.takeWhile (· ≠ wholeSeconds)).count decimalSeconds) (overflow (trim raw.toList))) ∧
    (¬FitsInSecondsOnly (trim raw.toList) → (reader.wait (some raw)).events = []) := by
  have hne : trim raw.toList ≠ [] := by
    intro hnil
    rw [wait, heading_of_trim_eq_nil hnil] at hv
    exact hv rfl
  simp only [wait, heading_of_trim_ne_nil hne, ne_eq, Option.map_eq_none_iff] at hv ⊢
  obtain ⟨h, hread⟩ := Option.ne_none_iff_exists'.1 hv
  rw [if_neg hv, List.append_nil]
  exact events_firstHeading_of_some hread

end HeaderReader

namespace Preset

/-- No preset has a format twice. -/
theorem nodup_formats (p : Preset) : p.formats.Nodup := by
  cases p <;> decide

/-- Every preset begins with whole seconds. -/
theorem takeWhile_formats (p : Preset) : p.formats.takeWhile (· ≠ .wholeSeconds) = [] := by
  cases p <;> rfl

end Preset

namespace HeaderReader

open Format

/-- What a reader leaves in the log of a header. A header of white space leaves the warning that it is empty. Another one that no
format reads leaves the warnings of the formats in their order and at the end, once, that it is not recognized. One that is read
leaves nothing, unless it is a number of seconds that fits in 64 bits and has milliseconds that do not: then each entry for decimal
seconds before the first for whole seconds leaves a warning.

A reader of a preset leaves nothing about a header that it reads, and one warning at most before the last about one that it does
not, or two if it has both formats for delays and the header is a number of seconds that does not fit in 64 bits. -/
theorem log_of_header_is_exact :
    (∀ (reader : HeaderReader) (raw : String),
      (trim raw.toList = [] → reader.wait (some raw) = ⟨none, [.emptyHeader raw]⟩) ∧
      (trim raw.toList ≠ [] → (reader.wait (some raw)).value = none →
        (reader.wait (some raw)).events =
          reader.formats.filterMap (warning? (trim raw.toList)) ++ [.unrecognizedHeader raw]) ∧
      ((reader.wait (some raw)).value ≠ none →
        (FitsInSecondsOnly (trim raw.toList) → (reader.wait (some raw)).events =
          List.replicate ((reader.formats.takeWhile (· ≠ wholeSeconds)).count decimalSeconds) (overflow (trim raw.toList))) ∧
        (¬FitsInSecondsOnly (trim raw.toList) → (reader.wait (some raw)).events = []))) ∧
    (∀ (p : Preset) (now : ClockTime) (raw : String),
      (((ofPreset p now).wait (some raw)).value ≠ none → ((ofPreset p now).wait (some raw)).events = []) ∧
      (trim raw.toList ≠ [] → ((ofPreset p now).wait (some raw)).value = none →
        ∃ warnings : List Event,
          ((ofPreset p now).wait (some raw)).events = warnings ++ [.unrecognizedHeader raw] ∧
          (∀ e ∈ warnings, ∃ f ∈ p.formats, ∃ fault, e = .unreadable f (String.ofList (trim raw.toList)) fault) ∧
          (FitsInNeither (trim raw.toList) ∧ wholeSeconds ∈ p.formats ∧ decimalSeconds ∈ p.formats →
            warnings.length = 2) ∧
          (¬(FitsInNeither (trim raw.toList) ∧ wholeSeconds ∈ p.formats ∧ decimalSeconds ∈ p.formats) →
            warnings.length ≤ 1))) := by
  constructor
  · intro reader raw
    refine ⟨?_, events_wait_of_none, events_wait_of_some⟩
    intro hnil
    rw [wait, heading_of_trim_eq_nil hnil]
    rfl
  · intro p now raw
    constructor
    · intro hv
      obtain ⟨hlong, hother⟩ := events_wait_of_some hv
      by_cases hfits : FitsInSecondsOnly (trim raw.toList)
      · rw [hlong hfits, ofPreset, p.takeWhile_formats]
        rfl
      · exact hother hfits
    · intro hne hv
      refine ⟨_, events_wait_of_none hne hv, ?_, ?_, length_warnings_le_one p.nodup_formats⟩
      · intro e he
        obtain ⟨f, hf, hwarning⟩ := List.mem_filterMap.1 he
        obtain ⟨fault, -, rfl⟩ := Option.map_eq_some_iff.1 hwarning
        exact ⟨f, hf, fault, rfl⟩
      · rintro ⟨hlong, hwhole, hdecimal⟩
        exact length_warnings_eq_two p.nodup_formats hlong hwhole hdecimal

/-- The first delay that is too long in milliseconds is read in whole seconds, after a warning for each entry that does not read it;
one that is too long in seconds leaves the warnings of both formats. -/
theorem log_of_long_delays :
    let now : ClockTime := ⟨0, 0, by decide, by decide, by decide⟩
    ((HeaderReader.mk [decimalSeconds, iso8601, decimalSeconds, wholeSeconds] now).wait (some " 18446744073709552 ")).events =
      [overflow "18446744073709552".toList, overflow "18446744073709552".toList] ∧
    ∃ warnings, ((ofPreset .extended now).wait (some "18446744073709551616")).events =
        warnings ++ [.unrecognizedHeader "18446744073709551616"] ∧ warnings.length = 2 := by
  intro now
  obtain ⟨hlists, hpresets⟩ := log_of_header_is_exact
  constructor
  · have hread : ((HeaderReader.mk [decimalSeconds, iso8601, decimalSeconds, wholeSeconds] now).wait
        (some " 18446744073709552 ")).value ≠ none := by decide +kernel
    have hfits : FitsInSecondsOnly (trim " 18446744073709552 ".toList) := by
      unfold FitsInSecondsOnly
      decide +kernel
    exact ((hlists _ _).2.2 hread).1 hfits
  · have hnone : ((ofPreset .extended now).wait (some "18446744073709551616")).value = none := by decide +kernel
    have hneither : FitsInNeither (trim "18446744073709551616".toList) := by
      unfold FitsInNeither
      decide +kernel
    obtain ⟨warnings, hevents, -, htwo, -⟩ := (hpresets .extended now "18446744073709551616").2 (by decide) hnone
    exact ⟨warnings, hevents, htwo ⟨hneither, by decide, by decide⟩⟩

end HeaderReader

end RetryPolicy
