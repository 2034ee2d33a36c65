import RetryPolicy.Proofs.AdvancingClock
import RetryPolicy.Proofs.Patterns

/-!
# The patterns of the formats

Each format is guarded by a pattern (`Format.pattern`), and what is read of a text is read from what the groups take of it. The six
patterns denote the parts that the formats look for, so that a text is in the pattern of a format just when it has its shape
(`Format.hasShape_iff_matches`), and its groups take its parts in one way only (`Format.matches_iff_captures?`). No text is in the
patterns of two formats, the delays apart (`Format.formats_exclude_each_other`).
-/

namespace RetryPolicy

namespace Header

open Text

/-! ## Parts of dates -/

namespace ClockText

/-- The groups of a time of day, of which the first has this number. -/
def groups (first : Nat) (t : ClockText) : Captures :=
  (first, t.hour) :: (first + 1, t.minute) :: (t.second.map fun s => [(first + 2, s)]).getD []

/-- A time of day: `(\d{1,2}):(\d{2})(?::(\d{2}))?`. -/
def pattern (first : Nat) : Pattern :=
  .inOrder [.group first (.chars 1 (some 2) Char.isDigit), .literal [':'], .group (first + 1) (.chars 2 (some 2) Char.isDigit),
    .optional (.inOrder [.literal [':'], .group (first + 2) (.chars 2 (some 2) Char.isDigit)])]

theorem denotes_pattern (first : Nat) : (pattern first).Denotes WellFormed text (groups first) := by
  have second := Pattern.Denotes.behind [':'] ((Pattern.denotes_exactly 2 Char.isDigit).group (first + 2)).last
  have minute := ((Pattern.denotes_exactly 2 Char.isDigit).group (first + 1)).cons second.optional.last
  have time := ((Pattern.denotes_oneOrTwo Char.isDigit).group first).cons (minute.behind [':'])
  refine time.seen (fun t => (t.hour, t.minute, t.second)) (fun ⟨h, m, s⟩ => ⟨⟨h, m, s⟩, rfl⟩) ?_ ?_ ?_
  · intro t
    simp [WellFormed, and_assoc]
  · rintro ⟨h, m, _ | s⟩
    · rfl
    · rfl
  · intro t
    rfl

end ClockText

/-- The group of a weekday. -/
def WeekdayText.groups (w : WeekdayText) : Captures :=
  [(1, w.name)]

/-- The group of a weekday that may be missing. -/
def weekdayGroups (w : Option WeekdayText) : Captures :=
  (w.map WeekdayText.groups).getD []

/-! ## The formats -/

namespace DecimalText

/-- The digits before the point and those after it. -/
def groups (t : DecimalText) : Captures :=
  (1, t.whole) :: (t.fraction.map fun f => [(2, f)]).getD []

/-- Seconds with a fraction: `(\d+)(?:\.(\d*))?`. -/
def pattern : Pattern :=
  .inOrder [.group 1 (.chars 1 none Char.isDigit),
    .optional (.inOrder [.literal ['.'], .group 2 (.chars 0 none Char.isDigit)])]

theorem denotes_pattern : pattern.Denotes WellFormed text groups := by
  have fraction := ((Pattern.denotes_any Char.isDigit).group 2).last.behind ['.']
  have delay := ((Pattern.denotes_many Char.isDigit).group 1).cons fraction.optional.last
  refine delay.seen (fun t => (t.whole, t.fraction)) (fun ⟨w, f⟩ => ⟨⟨w, f⟩, rfl⟩) ?_ ?_ ?_
  · intro t
    exact and_assoc.symm
  · rintro ⟨w, _ | f⟩
    · rfl
    · rfl
  · intro t
    rfl

end DecimalText

namespace ImfText

/-- The weekday, the day, the month, the year and the time. -/
def groups (t : ImfText) : Captures :=
  weekdayGroups t.weekday ++ (2, t.day) :: (3, t.month) :: (4, t.year) :: t.clock.groups 5

/-- A weekday in front: `(\w{3}),\s`. -/
def weekdayPattern : Pattern :=
  .inOrder [.group 1 (.chars 3 (some 3) isWord), .literal [','], .one isGap]

/-- A date: `(?:(\w{3}),\s)?(\d{1,2})\s(\w{3})\s(\d{4})\s`, the time and `\sGMT`. -/
def pattern : Pattern :=
  .inOrder [.optional weekdayPattern, .group 2 (.chars 1 (some 2) Char.isDigit), .one isGap,
    .group 3 (.chars 3 (some 3) isWord), .one isGap, .group 4 (.chars 4 (some 4) Char.isDigit), .one isGap,
    ClockText.pattern 5, .one isGap, .literal ['G', 'M', 'T']]

theorem denotes_weekdayPattern :
    weekdayPattern.Denotes WeekdayFits (fun w => weekdayText (some w)) WeekdayText.groups := by
  have gap := (Pattern.denotes_single isGap).last.behind [',']
  have weekday := ((Pattern.denotes_exactly 3 isWord).group 1).cons gap
  exact weekday.seen (fun w => (w.name, w.gap)) (fun ⟨n, g⟩ => ⟨⟨n, g⟩, rfl⟩) (fun _ => and_assoc.symm) (fun _ => rfl)
    (fun _ => rfl)

theorem denotes_pattern : pattern.Denotes WellFormed text groups := by
  have gap := Pattern.denotes_one isGap
  have clock := (ClockText.denotes_pattern 5).cons (gap.before ['G', 'M', 'T'])
  have year := ((Pattern.denotes_exactly 4 Char.isDigit).group 4).cons (gap.cons clock)
  have month := ((Pattern.denotes_exactly 3 isWord).group 3).cons (gap.cons year)
  have day := ((Pattern.denotes_oneOrTwo Char.isDigit).group 2).cons (gap.cons month)
  have date := denotes_weekdayPattern.optional.cons day
  refine date.seen (fun t => (t.weekday, t.day, t.gap1, t.month, t.gap2, t.year, t.gap3, t.clock, t.gap4))
    (fun ⟨w, d, g1, m, g2, y, g3, c, g4⟩ => ⟨⟨w, d, g1, m, g2, y, g3, c, g4⟩, rfl⟩) ?_ ?_ ?_
  · intro t
    simp [WellFormed, BodyFits, and_assoc]
  · rintro ⟨_ | w, d, g1, m, g2, y, g3, c, g4⟩
    · simp [text, weekdayText, bodyText]
    · simp [text, weekdayText, bodyText]
  · rintro ⟨_ | w, d, g1, m, g2, y, g3, c, g4⟩
    · simp [groups, weekdayGroups]
    · simp [groups, weekdayGroups]

end ImfText

namespace Rfc850Text

/-- The weekday, the day, the month, the year, the time and the zone. -/
def groups (t : Rfc850Text) : Captures :=
  weekdayGroups t.weekday ++ (2, t.day) :: (3, t.month) :: (4, t.year) :: (t.clock.groups 5 ++ [(8, t.zone)])

/-- A weekday in front: `(\w+),\s`. -/
def weekdayPattern : Pattern :=
  .inOrder [.group 1 (.chars 1 none isWord), .literal [','], .one isGap]

/-- A date: `(?:(\w+),\s)?(\d{1,2})-(\w{3})-(\d{2})\s`, the time and `\s(\w+)`. -/
def pattern : Pattern :=
  .inOrder [.optional weekdayPattern, .group 2 (.chars 1 (some 2) Char.isDigit), .literal ['-'],
    .group 3 (.chars 3 (some 3) isWord), .literal ['-'], .group 4 (.chars 2 (some 2) Char.isDigit), .one isGap,
    ClockText.pattern 5, .one isGap, .group 8 (.chars 1 none isWord)]

theorem denotes_weekdayPattern :
    weekdayPattern.Denotes WeekdayFits (fun w => weekdayText (some w)) WeekdayText.groups := by
  have gap := (Pattern.denotes_single isGap).last.behind [',']
  have weekday := ((Pattern.denotes_many isWord).group 1).cons gap
  exact weekday.seen (fun w => (w.name, w.gap)) (fun ⟨n, g⟩ => ⟨⟨n, g⟩, rfl⟩) (fun _ => and_assoc.symm) (fun _ => rfl)
    (fun _ => rfl)

theorem denotes_pattern : pattern.Denotes WellFormed text groups := by
  have gap := Pattern.denotes_one isGap
  have zone := gap.cons ((Pattern.denotes_many isWord).group 8).last
  have clock := gap.cons ((ClockText.denotes_pattern 5).cons zone)
  have year := ((Pattern.denotes_exactly 2 Char.isDigit).group 4).cons clock
  have month := ((Pattern.denotes_exactly 3 isWord).group 3).cons (year.behind ['-'])
  have day := ((Pattern.denotes_oneOrTwo Char.isDigit).group 2).cons (month.behind ['-'])
  have date := denotes_weekdayPattern.optional.cons day
  refine date.seen (fun t => (t.weekday, t.day, t.month, t.year, t.gap1, t.clock, t.gap2, t.zone))
    (fun ⟨w, d, m, y, g1, c, g2, z⟩ => ⟨⟨w, d, m, y, g1, c, g2, z⟩, rfl⟩) ?_ ?_ ?_
  · intro t
    simp [WellFormed, BodyFits, and_assoc]
  · rintro ⟨_ | w, d, m, y, g1, c, g2, z⟩
    · simp [text, weekdayText, bodyText]
    · simp [text, weekdayText, bodyText]
  · rintro ⟨_ | w, d, m, y, g1, c, g2, z⟩
    · simp [groups, weekdayGroups]
    · simp [groups, weekdayGroups]

end Rfc850Text

namespace AsctimeText

/-- The weekday, the month, the day, the time and the year. -/
def groups (t : AsctimeText) : Captures :=
  weekdayGroups t.weekday ++ (2, t.month) :: (3, t.day) :: (t.clock.groups 4 ++ [(7, t.year)])

/-- A weekday in front: `(\w{3})\s+`. -/
def weekdayPattern : Pattern :=
  .inOrder [.group 1 (.chars 3 (some 3) isWord), .chars 1 none isGap]

/-- A date: `(?:(\w{3})\s+)?(\w{3})\s+(\d{1,2})\s`, the time and `\s+(\d{4})`. -/
def pattern : Pattern :=
  .inOrder [.optional weekdayPattern, .group 2 (.chars 3 (some 3) isWord), .chars 1 none isGap,
    .group 3 (.chars 1 (some 2) Char.isDigit), .one isGap, ClockText.pattern 4, .chars 1 none isGap,
    .group 7 (.chars 4 (some 4) Char.isDigit)]

theorem denotes_weekdayPattern :
    weekdayPattern.Denotes WeekdayFits (fun w => weekdayText (some w)) WeekdayText.groups := by
  have gap := (Pattern.denotes_many isGap).last
  have weekday := ((Pattern.denotes_exactly 3 isWord).group 1).cons gap
  exact weekday.seen (fun w => (w.name, w.gap)) (fun ⟨n, g⟩ => ⟨⟨n, g⟩, rfl⟩) (fun _ => and_assoc.symm) (fun _ => rfl)
    (fun _ => rfl)

theorem denotes_pattern : pattern.Denotes WellFormed text groups := by
  have gap := Pattern.denotes_one isGap
  have gaps := Pattern.denotes_many isGap
  have year := ((Pattern.denotes_exactly 4 Char.isDigit).group 7).last
  have clock := (ClockText.denotes_pattern 4).cons (gaps.cons year)
  have day := ((Pattern.denotes_oneOrTwo Char.isDigit).group 3).cons (gap.cons clock)
  have month := ((Pattern.denotes_exactly 3 isWord).group 2).cons (gaps.cons day)
  have date := denotes_weekdayPattern.optional.cons month
  refine date.seen (fun t => (t.weekday, t.month, t.gap1, t.day, t.gap2, t.clock, t.gap3, t.year))
    (fun ⟨w, m, g1, d, g2, c, g3, y⟩ => ⟨⟨w, m, g1, d, g2, c, g3, y⟩, rfl⟩) ?_ ?_ ?_
  · intro t
    simp [WellFormed, BodyFits, and_assoc]
  · rintro ⟨_ | w, m, g1, d, g2, c, g3, y⟩
    · simp [text, weekdayText, bodyText]
    · simp [text, weekdayText, bodyText]
  · rintro ⟨_ | w, m, g1, d, g2, c, g3, y⟩
    · simp [groups, weekdayGroups]
    · simp [groups, weekdayGroups]

end AsctimeText

namespace IsoText

/-- The time of day. -/
def groups (t : IsoText) : Captures :=
  [(1, t.hour), (2, t.minute), (3, t.second)]

/-- An instant: `\d{4}-\d{2}-\d{2}T(\d{2}):(\d{2}):(\d{2})(?:\.(?:\d{3}){1,3})?Z`. -/
def pattern : Pattern :=
  .inOrder [.chars 4 (some 4) Char.isDigit, .literal ['-'], .chars 2 (some 2) Char.isDigit, .literal ['-'],
    .chars 2 (some 2) Char.isDigit, .literal ['T'], .group 1 (.chars 2 (some 2) Char.isDigit), .literal [':'],
    .group 2 (.chars 2 (some 2) Char.isDigit), .literal [':'], .group 3 (.chars 2 (some 2) Char.isDigit),
    .optional (.inOrder [.literal ['.'], .times 1 (some 3) (.chars 3 (some 3) Char.isDigit)]), .literal ['Z']]

theorem denotes_fraction :
    (Pattern.times 1 (some 3) (.chars 3 (some 3) Char.isDigit)).Denotes FractionFits id (fun _ => []) := by
  refine (Pattern.denotes_blocks 1 3 3 Char.isDigit).seen id Function.surjective_id ?_ (fun _ => rfl) (fun _ => rfl)
  intro f
  have hblocks : (f.length = 3 ∨ f.length = 6 ∨ f.length = 9) ↔ ∃ n, 1 ≤ n ∧ n ≤ 3 ∧ f.length = n * 3 := by
    constructor
    · intro h
      exact ⟨f.length / 3, by omega⟩
    · rintro ⟨n, hlow, hhigh, hl⟩
      omega
  rw [FractionFits, hblocks]
  rfl

theorem denotes_pattern : pattern.Denotes WellFormed text groups := by
  have two := Pattern.denotes_exactly 2 Char.isDigit
  have fraction := (denotes_fraction.last.behind ['.']).optional.before ['Z']
  have second := (two.group 3).cons fraction
  have minute := (two.group 2).cons (second.behind [':'])
  have hour := (two.group 1).cons (minute.behind [':'])
  have day := two.cons (hour.behind ['T'])
  have month := two.cons (day.behind ['-'])
  have date := (Pattern.denotes_exactly 4 Char.isDigit).cons (month.behind ['-'])
  refine date.seen (fun t => (t.year, t.month, t.day, t.hour, t.minute, t.second, t.fraction))
    (fun ⟨y, m, d, h, n, s, f⟩ => ⟨⟨y, m, d, h, n, s, f⟩, rfl⟩) ?_ ?_ ?_
  · intro t
    simp [WellFormed, and_assoc]
  · rintro ⟨y, m, d, h, n, s, _ | f⟩
    · simp [text, marked]
    · simp [text, marked]
  · rintro ⟨y, m, d, h, n, s, _ | f⟩
    · rfl
    · rfl

end IsoText

end Header

namespace Format

open Text Header

/-- The pattern that guards the format. -/
def pattern : Format → Pattern
  | wholeSeconds => .chars 1 none Char.isDigit
  | decimalSeconds => DecimalText.pattern
  | imfFixdate => ImfText.pattern
  | rfc850 => Rfc850Text.pattern
  | asctime => AsctimeText.pattern
  | iso8601 => IsoText.pattern

/-- What the groups of the pattern take of a text that is in it. -/
def captures? (f : Format) (cs : List Char) : Option Captures :=
  match f with
  | wholeSeconds => if wholeSeconds.hasShape cs then some [] else none
  | decimalSeconds => (DecimalText.scan cs).map DecimalText.groups
  | imfFixdate => (ImfText.scan cs).map ImfText.groups
  | rfc850 => (Rfc850Text.scan cs).map Rfc850Text.groups
  | asctime => (AsctimeText.scan cs).map AsctimeText.groups
  | iso8601 => (IsoText.scan cs).map IsoText.groups

/-- There is one way at most for the groups of a format's pattern to take parts of a text, and it is the one that is found. -/
theorem matches_iff_captures? {f : Format} {cs : List Char} {g : Captures} :
    f.pattern.Matches cs g ↔ f.captures? cs = some g := by
  cases f with
  | wholeSeconds =>
    rw [captures?, Option.ite_none_right_eq_some, hasShape_wholeSeconds_iff, Option.some.injEq, pattern,
      Pattern.denotes_many _ cs g]
    constructor
    · rintro ⟨_, hcs, rfl, rfl⟩
      exact ⟨hcs, rfl⟩
    · rintro ⟨hcs, rfl⟩
      exact ⟨cs, hcs, rfl, rfl⟩
  | decimalSeconds => exact DecimalText.denotes_pattern.matches_iff DecimalText.scan_eq_some_iff
  | imfFixdate => exact ImfText.denotes_pattern.matches_iff ImfText.scan_eq_some_iff
  | rfc850 => exact Rfc850Text.denotes_pattern.matches_iff Rfc850Text.scan_eq_some_iff
  | asctime => exact AsctimeText.denotes_pattern.matches_iff AsctimeText.scan_eq_some_iff
  | iso8601 => exact IsoText.denotes_pattern.matches_iff IsoText.scan_eq_some_iff

/-- A text has the shape of a format when it is in its pattern. -/
theorem hasShape_iff_matches {f : Format} {cs : List Char} : f.hasShape cs = true ↔ ∃ g, f.pattern.Matches cs g := by
  simp only [matches_iff_captures?, ← Option.isSome_iff_exists]
  cases f with
  | wholeSeconds =>
    rw [captures?]
    cases wholeSeconds.hasShape cs with
    | false => decide
    | true => decide
  | decimalSeconds => simp [hasShape, read, captures?, Header.decimalSeconds]
  | imfFixdate => simp [hasShape, read, captures?, Header.imfFixdate]
  | rfc850 => simp [hasShape, read, captures?, Header.rfc850]
  | asctime => simp [hasShape, read, captures?, Header.asctime]
  | iso8601 => simp [hasShape, read, captures?, Header.iso8601]

/-! ## One format at most -/

/-- The format knows the text as one of its own: it accepts it, or it leaves a warning that the text cannot be read. -/
def Recognizes (f : Format) (now : ClockTime) (text : String) : Prop :=
  (∃ d, (f.wait now text).value = some d) ∨ ∃ fault, .unreadable f text fault ∈ (f.wait now text).events

/-- A format knows the texts of its shape, whatever its clock shows. -/
theorem recognizes_iff_hasShape {f : Format} {now : ClockTime} {text : String} :
    f.Recognizes now text ↔ f.hasShape text.toList = true := by
  unfold Recognizes wait heading hasShape
  rcases f.read text.toList with _ | fault | h
  · simp
  · simp
  · simp

/-- Whatever formats for delays accept a text, they find the same delay in it, by any clock. -/
theorem delay_unique {f g : Format} (hf : f.isDate = false) {now other : ClockTime} {text : String} {d e : Span}
    (hd : (f.wait now text).value = some d) (he : (g.wait other text).value = some e) : d = e := by
  obtain ⟨h, hh, rfl⟩ := Option.map_eq_some_iff.1 hd
  obtain ⟨k, hk, rfl⟩ := Option.map_eq_some_iff.1 he
  obtain ⟨d, rfl⟩ := exists_delay_of_read hf (value_heading_eq_some_iff.1 hh)
  rw [← heading_unique hh hk]
  rfl

/-- Shapes exclude each other. A text that two formats know, whether they accept it or only warn about it and whatever their clocks
show, is a delay, in whole and in decimal seconds. Each text that is known for whole seconds is known for decimal seconds too, and
where both accept it the delays are the same. What a format knows are the texts of its pattern, so that no other two patterns have
a text in common. -/
theorem formats_exclude_each_other :
    (∀ (f g : Format) (now other : ClockTime) (text : String), f ≠ g → f.Recognizes now text → g.Recognizes other text →
      f = wholeSeconds ∧ g = decimalSeconds ∨ f = decimalSeconds ∧ g = wholeSeconds) ∧
    (∀ (now other : ClockTime) (text : String), wholeSeconds.Recognizes now text → decimalSeconds.Recognizes other text) ∧
    (∀ (now other : ClockTime) (text : String) (d e : Span), (wholeSeconds.wait now text).value = some d →
      (decimalSeconds.wait other text).value = some e → d = e) ∧
    (∀ (f : Format) (now : ClockTime) (text : String), f.Recognizes now text ↔ ∃ g, f.pattern.Matches text.toList g) := by
  refine ⟨?shapes, ?included, ?equal, ?patterns⟩
  case shapes =>
    intro f g now other text hne hf hg
    rw [recognizes_iff_hasShape] at hf hg
    exact (widest_eq_iff.1 (widest_eq_of_hasShape hf hg)).resolve_left hne
  case included =>
    intro now other text h
    rw [recognizes_iff_hasShape] at h ⊢
    exact hasShape_decimalSeconds_of_wholeSeconds h
  case equal =>
    intro now other text d e hd he
    exact delay_unique rfl hd he
  case patterns =>
    intro f now text
    rw [recognizes_iff_hasShape, hasShape_iff_matches]

/-- Two minutes with zeros in front are the same delay twice, and a delay that is too long in milliseconds is decimal seconds all
the same and in no date format. -/
theorem delay_is_in_both_formats :
    let now : ClockTime := ⟨0, 0, by decide, by decide, by decide⟩
    let long := "18446744073709552"
    (wholeSeconds.wait now "00120").value = (decimalSeconds.wait now "00120").value ∧
    (decimalSeconds.wait now long).value = none ∧ decimalSeconds.Recognizes now long ∧
    (∀ f : Format, f ≠ wholeSeconds → f.Recognizes now long → f = decimalSeconds) ∧
    ∃ g, decimalSeconds.pattern.Matches long.toList g := by
  intro now long
  obtain ⟨hshapes, hincluded, hequal, hpatterns⟩ := formats_exclude_each_other
  have hwhole : wholeSeconds.Recognizes now long := .inl (Option.isSome_iff_exists.1 (by decide +kernel))
  have hdecimal := hincluded now now long hwhole
  refine ⟨?_, by decide +kernel, hdecimal, ?_, (hpatterns decimalSeconds now long).1 hdecimal⟩
  · obtain ⟨d, hd⟩ := Option.isSome_iff_exists.1 (by decide +kernel : (wholeSeconds.wait now "00120").value.isSome = true)
    obtain ⟨e, he⟩ := Option.isSome_iff_exists.1 (by decide +kernel : (decimalSeconds.wait now "00120").value.isSome = true)
    rw [hd, he, hequal now now "00120" d e hd he]
  · intro f hne hf
    rcases hshapes f wholeSeconds now now long hne hf hwhole with ⟨rfl, -⟩ | ⟨rfl, -⟩
    · exact absurd rfl hne
    · rfl

end Format

end RetryPolicy
