import RetryPolicy.Proofs.ZonedDates

/-!
# What a weekday in front of a date is good for

Three formats allow a weekday in front of a date. It can only confirm the date: it does not help one that is refused, and a
date that is read without a weekday is read with that of its day, as the same instant, and with no other
(`weekdays_only_confirm_dates`). The day is told by the instant alone, from the number of days since 1970 in the zone of the
date.

A weekday changes nothing in what the rest of a stamp says (`Stamp.says_named_iff`), so one argument serves the three formats
(`onlyConfirms_of_stamp`); of each format remains which texts with a weekday it takes apart into which stamps.
-/

namespace RetryPolicy

open Text Header

/-- The first of January 1970 was a Thursday, and the days are counted from there by the clocks of the zone. -/
theorem Instant.index_weekday (d : Date) (time : TimeOfDay) (zone : Zone) :
    (d.weekday.index : Int) =
      (((ofCivil d time zone (fraction 0)).nanos + zone.hoursAhead * 3600 * 1000000000) / (86400 * 1000000000) + 3) % 7 := by
  have hday : ((ofCivil d time zone (fraction 0)).nanos + zone.hoursAhead * 3600 * 1000000000) / (86400 * 1000000000) =
      (d.dayNumber : Int) - epochDay := by
    have hlt := time.seconds_lt
    have hzero : ((fraction 0).val : Int) = 0 := rfl
    simp only [ofCivil, hzero]
    omega
  rw [hday, Date.weekday, Weekday.index_ofIndex]
  simp only [epochDay]
  omega

namespace Header

/-! ## Stamps with a weekday and without -/

/-- A stamp says one date and one time in one zone at most. -/
theorem Stamp.Says.unique {s : Stamp} {d e : Date} {time other : TimeOfDay} {zone far : Zone} (h : s.Says d time zone)
    (h' : s.Says e other far) : d = e ∧ time = other ∧ zone = far := by
  have hdate : Date.ofFields? s.year d.month s.day = some d := Date.ofFields?_eq_some_iff.2 ⟨h.year.symm, rfl, h.day.symm⟩
  have htime : TimeOfDay.ofFields? s.hour s.minute s.second = some time :=
    TimeOfDay.ofFields?_eq_some_iff.2 ⟨h.hour.symm, h.minute.symm, h.second.symm⟩
  have hmonth : some d.month = some e.month := h.month.symm.trans h'.month
  rw [Option.some.inj hmonth, Date.ofFields?_eq_some_iff.2 ⟨h'.year.symm, rfl, h'.day.symm⟩] at hdate
  rw [TimeOfDay.ofFields?_eq_some_iff.2 ⟨h'.hour.symm, h'.minute.symm, h'.second.symm⟩] at htime
  exact ⟨(Option.some.inj hdate).symm, (Option.some.inj htime).symm, Option.some.inj (h.zone.symm.trans h'.zone)⟩

/-- A stamp that names a weekday says what it says without, if the weekday is that of the date. -/
theorem Stamp.says_named_iff {s : Stamp} (hs : s.weekday = none) {name : List Char} {d : Date} {time : TimeOfDay}
    {zone : Zone} :
    ({ s with weekday := some name } : Stamp).Says d time zone ↔
      Weekday.ofName? name = some d.weekday ∧ s.Says d time zone := by
  constructor
  · intro h
    refine ⟨h.weekday name rfl, { h with weekday := ?_ }⟩
    rw [hs]
    nofun
  · rintro ⟨hname, h⟩
    refine { h with weekday := ?_ }
    rintro _ ⟨⟩
    exact hname

/-- What a word in the place of a weekday can do in front of a date. It helps no date that is refused without it. A date that is
read without it has one of the seven weekdays, which follows from its instant and the hours that its zone is ahead: behind a name
of this one the date is read as the same instant, and behind the name of any other it is refused. -/
structure OnlyConfirms (read : List Char → Reading Instant) (IsFront : List Char → List Char → Prop) (body : List Char)
    (hoursAhead : Int) : Prop where
  refused : (∀ i, read body ≠ some (.ok i)) →
    ∀ word front, IsFront word front → ∀ i, read (front ++ body) ≠ some (.ok i)
  confirmed : ∀ i, read body = some (.ok i) →
    ∃ actual : Weekday,
      (actual.index : Int) = ((i.nanos + hoursAhead * 3600 * 1000000000) / (86400 * 1000000000) + 3) % 7 ∧
        ∀ day word front, IsFront word front →
          sameName day.abbreviation.toList word = true ∨ sameName day.name.toList word = true →
            ∀ j, read (front ++ body) = some (.ok j) ↔ day = actual ∧ j = i

/-- A format that finds the same stamp behind a word, but for the word, reads the date for what it says. -/
theorem onlyConfirms_of_stamp {read : List Char → Reading Instant} {IsFront : List Char → List Char → Prop}
    {body : List Char} {hoursAhead : Int} {s : Stamp} (hs : s.weekday = none) (hbody : read body = some s.instant)
    (hfront : ∀ word front, IsFront word front →
      read (front ++ body) = some ({ s with weekday := some word } : Stamp).instant)
    (hzone : ∀ zone, Zone.ofName? s.zone = some zone → zone.hoursAhead = hoursAhead) :
    OnlyConfirms read IsFront body hoursAhead where
  refused := by
    intro hrefused word front hf i hread
    rw [hfront word front hf, Option.some.injEq] at hread
    obtain ⟨d, time, zone, h, rfl⟩ := Stamp.instant_eq_ok_iff.1 hread
    obtain ⟨-, hsays⟩ := (Stamp.says_named_iff hs).1 h
    apply hrefused
    rw [hbody, Stamp.instant_eq_ok_iff.2 ⟨d, time, zone, hsays, rfl⟩]
  confirmed := by
    intro i hread
    rw [hbody, Option.some.injEq] at hread
    obtain ⟨d, time, zone, hsays, rfl⟩ := Stamp.instant_eq_ok_iff.1 hread
    refine ⟨d.weekday, ?_, ?_⟩
    · rw [← hzone zone hsays.zone]
      exact Instant.index_weekday d time zone
    · intro day word front hf hname j
      have hday := Weekday.ofName?_eq_some_iff.2 hname
      rw [hfront word front hf, Option.some.injEq, Stamp.instant_eq_ok_iff]
      simp only [Stamp.says_named_iff hs, hday, Option.some.injEq]
      -- What the stamp says without the weekday is fixed, so the date that the weekday must fit is `d`.
      constructor
      · rintro ⟨e, other, far, ⟨hactual, h⟩, rfl⟩
        obtain ⟨rfl, rfl, rfl⟩ := hsays.unique h
        exact ⟨hactual, rfl⟩
      · rintro ⟨hactual, rfl⟩
        exact ⟨d, time, zone, ⟨hactual, hsays⟩, rfl⟩

/-- So does a format that takes a text with a word in front apart into the same parts, but for the weekday. -/
theorem onlyConfirms_of_parts {Parts : Type} {scan : List Char → Option Parts} {text : Parts → List Char}
    {stamp : Parts → Stamp} {WellFormed : Parts → Prop} {IsFront : List Char → List Char → Prop} {hoursAhead : Int}
    {t : Parts} (hscan : ∀ {cs parts}, scan cs = some parts ↔ WellFormed parts ∧ text parts = cs) (ht : WellFormed t)
    (hs : (stamp t).weekday = none)
    (hfront : ∀ word front, IsFront word front →
      ∃ named, (WellFormed named ∧ text named = front ++ text t) ∧ stamp named = { stamp t with weekday := some word })
    (hzone : ∀ zone, Zone.ofName? (stamp t).zone = some zone → zone.hoursAhead = hoursAhead) :
    OnlyConfirms (fun cs => (scan cs).map fun parts => (stamp parts).instant) IsFront (text t) hoursAhead := by
  refine onlyConfirms_of_stamp hs (read_text hscan ht) ?_ hzone
  intro word front hf
  obtain ⟨named, ⟨hwell, htext⟩, hstamp⟩ := hfront word front hf
  rw [← htext, ← hstamp]
  exact read_text hscan hwell

/-- The clocks of Greenwich are not ahead. -/
theorem hoursAhead_of_greenwich {zone : Zone} (h : Zone.ofName? ['G', 'M', 'T'] = some zone) : zone.hoursAhead = 0 := by
  have hgmt : some Zone.gmt = some zone := Zone.gmt.ofName?_abbreviation.symm.trans h
  rw [← Option.some.inj hgmt]
  rfl

/-! ## The three formats -/

namespace ImfText

/-- In the place of a weekday stand three word characters, a comma and one gap. -/
def IsFront (word front : List Char) : Prop :=
  ∃ gap : Char, (word.length = 3 ∧ word.all isWord = true) ∧ isGap gap = true ∧ front = word ++ [',', gap]

theorem onlyConfirms {t : ImfText} (ht : t.WellFormed) (hw : t.weekday = none) :
    OnlyConfirms imfFixdate IsFront t.text 0 := by
  have hs : t.stamp.weekday = none := by rw [stamp, hw]; rfl
  refine onlyConfirms_of_parts scan_eq_some_iff ht hs ?_ fun zone => hoursAhead_of_greenwich
  rintro word _ ⟨gap, ⟨lw, pw⟩, hgap, rfl⟩
  refine ⟨{ t with weekday := some ⟨word, [gap]⟩ }, ⟨⟨?_, ht.2⟩, ?_⟩, rfl⟩
  · rintro _ ⟨⟩
    exact ⟨lw, pw, rfl, by simp [hgap]⟩
  · simp [text, weekdayText, bodyText, hw]

end ImfText

namespace AsctimeText

/-- In the place of a weekday stand three word characters and one gap or more. -/
def IsFront (word front : List Char) : Prop :=
  ∃ gap : List Char,
    (word.length = 3 ∧ word.all isWord = true) ∧ (gap ≠ [] ∧ gap.all isGap = true) ∧ front = word ++ gap

theorem onlyConfirms {t : AsctimeText} (ht : t.WellFormed) (hw : t.weekday = none) :
    OnlyConfirms asctime IsFront t.text 0 := by
  have hs : t.stamp.weekday = none := by rw [stamp, hw]; rfl
  refine onlyConfirms_of_parts scan_eq_some_iff ht hs ?_ fun zone => hoursAhead_of_greenwich
  rintro word _ ⟨gap, ⟨lw, pw⟩, hgap, rfl⟩
  refine ⟨{ t with weekday := some ⟨word, gap⟩ }, ⟨⟨?_, ht.2⟩, ?_⟩, rfl⟩
  · rintro _ ⟨⟩
    exact ⟨lw, pw, hgap⟩
  · simp [text, weekdayText, bodyText, hw]

end AsctimeText

namespace Rfc850Text

/-- In the place of a weekday stand a word of any length, a comma and one gap. -/
def IsFront (word front : List Char) : Prop :=
  ∃ gap : Char, (word ≠ [] ∧ word.all isWord = true) ∧ isGap gap = true ∧ front = word ++ [',', gap]

/-- The hours that the zone of the date is ahead, if there is such a zone. -/
def hoursAhead (t : Rfc850Text) : Int :=
  ((Zone.ofName? t.zone).map Zone.hoursAhead).getD 0

theorem hoursAhead_eq {t : Rfc850Text} {zone : Zone} (h : Zone.ofName? t.zone = some zone) :
    zone.hoursAhead = t.hoursAhead := by
  rw [hoursAhead, h, Option.map_some, Option.getD_some]

theorem onlyConfirms {t : Rfc850Text} (ht : t.WellFormed) (hw : t.weekday = none) :
    OnlyConfirms rfc850 IsFront t.text t.hoursAhead := by
  have hs : t.stamp.weekday = none := by rw [stamp, hw]; rfl
  refine onlyConfirms_of_parts scan_eq_some_iff ht hs ?_ fun zone => hoursAhead_eq
  rintro word _ ⟨gap, ⟨nw, pw⟩, hgap, rfl⟩
  refine ⟨{ t with weekday := some ⟨word, [gap]⟩ }, ⟨⟨?_, ht.2⟩, ?_⟩, rfl⟩
  · rintro _ ⟨⟩
    exact ⟨nw, pw, rfl, by simp [hgap]⟩
  · simp [text, weekdayText, bodyText, hw]

end Rfc850Text

/-- A weekday can only confirm a date. Of a text that has the shape of a date without a weekday, in one of the three formats that
allow one: if it is refused, it is refused behind any word in the place of a weekday; if it is read as an instant, it is read
behind one of the seven weekdays alone, as the same instant, and this one is as many days after Monday as the days since 1970
and three more leave, by the clocks of the zone in the date, when they are divided by seven. -/
theorem weekdays_only_confirm_dates :
    (∀ t : ImfText, t.WellFormed → t.weekday = none → OnlyConfirms imfFixdate ImfText.IsFront t.text 0) ∧
    (∀ t : AsctimeText, t.WellFormed → t.weekday = none → OnlyConfirms asctime AsctimeText.IsFront t.text 0) ∧
    ∀ t : Rfc850Text, t.WellFormed → t.weekday = none → OnlyConfirms rfc850 Rfc850Text.IsFront t.text t.hoursAhead := by
  refine ⟨?_, ?_, ?_⟩
  · intro t ht hw
    exact ImfText.onlyConfirms ht hw
  · intro t ht hw
    exact AsctimeText.onlyConfirms ht hw
  · intro t ht hw
    exact Rfc850Text.onlyConfirms ht hw

/-- On the last evening of a century in New York the new one has begun in Greenwich, but the weekday is that of the date as it
is written. -/
theorem last_evening_of_century_confirmed :
    let t : Rfc850Text := ⟨none, ['3', '1'], ['D', 'e', 'c'], ['9', '9'], ' ', ⟨['2', '3'], ['3', '0'], none⟩, ' ',
      ['E', 'S', 'T']⟩
    let i : Instant := ⟨4102461000 * 1000000000, by decide, by decide⟩
    (t.WellFormed ∧ t.weekday = none ∧ rfc850 t.text = some (.ok i)) ∧ i.date?.map Date.weekday = some .friday ∧
      rfc850 "thursday, 31-Dec-99 23:30 EST".toList = some (.ok i) ∧
      ∀ j, rfc850 "Fri, 31-Dec-99 23:30 EST".toList ≠ some (.ok j) := by
  intro t i
  have ht : t.WellFormed := ⟨nofun, .inr rfl, rfl, rfl, rfl, rfl, rfl, rfl, ⟨.inr rfl, rfl, rfl, rfl, nofun⟩, rfl, nofun, rfl⟩
  have hread : rfc850 t.text = some (.ok i) := by decide +kernel
  obtain ⟨actual, hindex, honly⟩ := (weekdays_only_confirm_dates.2.2 t ht rfl).confirmed i hread
  have hthursday : actual = .thursday := by
    have hthree : actual.index = 3 := Int.ofNat_inj.1 hindex
    rw [← actual.ofIndex_index, hthree]
    rfl
  subst hthursday
  refine ⟨⟨ht, rfl, hread⟩, by decide +kernel, ?_, ?_⟩
  · exact (honly .thursday "thursday".toList _ ⟨' ', ⟨nofun, rfl⟩, rfl, rfl⟩ (.inr (by decide)) i).2 ⟨rfl, rfl⟩
  · intro j hj
    have hday := (honly .friday "Fri".toList _ ⟨' ', ⟨nofun, rfl⟩, rfl, rfl⟩ (.inl (by decide)) j).1 hj
    exact nomatch hday.1

end Header

end RetryPolicy
