import RetryPolicy.Header.AsctimeText
import RetryPolicy.Header.ImfText
import RetryPolicy.Header.IsoText
import RetryPolicy.Header.Rfc850Text
import RetryPolicy.Time.Civil

/-!
# How dates are written

Each date format has one canonical way to write a date and a time in universal time: with the weekday where the format
has one, the second, and every number padded to its full width. Only the day of `asctime` is padded with a space.
-/

namespace RetryPolicy.Header

open Text

/-- The time `01:23:45`. -/
def ClockText.ofTime (t : TimeOfDay) : ClockText where
  hour := padded 2 t.hour
  minute := padded 2 t.minute
  second := some (padded 2 t.second)

/-- The date `Thu, 02 Jan 2003 01:23:45 GMT`. -/
def ImfText.ofCivil (d : Date) (t : TimeOfDay) : ImfText where
  weekday := some ⟨d.weekday.abbreviation.toList, [' ']⟩
  day := padded 2 d.day
  gap1 := ' '
  month := d.month.abbreviation.toList
  gap2 := ' '
  year := padded 4 d.year
  gap3 := ' '
  clock := ClockText.ofTime t
  gap4 := ' '

/-- The date `Thursday, 02-Jan-03 01:23:45 GMT`. -/
def Rfc850Text.ofCivil (d : Date) (t : TimeOfDay) : Rfc850Text where
  weekday := some ⟨d.weekday.name.toList, [' ']⟩
  day := padded 2 d.day
  month := d.month.abbreviation.toList
  year := padded 2 (d.year % 100)
  gap1 := ' '
  clock := ClockText.ofTime t
  gap2 := ' '
  zone := Zone.gmt.abbreviation.toList

/-- The date `Thu Jan  2 01:23:45 2003`. -/
def AsctimeText.ofCivil (d : Date) (t : TimeOfDay) : AsctimeText where
  weekday := some ⟨d.weekday.abbreviation.toList, [' ']⟩
  month := d.month.abbreviation.toList
  gap1 := if d.day < 10 then [' ', ' '] else [' ']
  day := digits d.day
  gap2 := ' '
  clock := ClockText.ofTime t
  gap3 := [' ']
  year := padded 4 d.year

/-- The instant `2003-01-02T01:23:45Z`. -/
def IsoText.ofCivil (d : Date) (t : TimeOfDay) : IsoText where
  year := padded 4 d.year
  month := padded 2 d.month.number
  day := padded 2 d.day
  hour := padded 2 t.hour
  minute := padded 2 t.minute
  second := padded 2 t.second
  fraction := none

/-- The texts for a date and a time in universal time. Two digits of a year are enough for one century only. -/
def canonicalTexts (d : Date) (t : TimeOfDay) : List (List Char) :=
  [(ImfText.ofCivil d t).text, (AsctimeText.ofCivil d t).text, (IsoText.ofCivil d t).text] ++
    if 2000 ≤ d.year ∧ d.year ≤ 2099 then [(Rfc850Text.ofCivil d t).text] else []

end RetryPolicy.Header
