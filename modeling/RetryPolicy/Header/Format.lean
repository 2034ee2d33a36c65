/-!
# The formats of a Retry-After header

Two formats name a delay and four name a date. A `Preset` is a usual choice among them; each of its lists has no
format twice, and `extended` has all six.
-/

namespace RetryPolicy

/-- One way to write a Retry-After header. -/
inductive Format where
  /-- Whole seconds, `120`. -/
  | wholeSeconds
  /-- Seconds with a fraction, `1.5`, to the millisecond. -/
  | decimalSeconds
  /-- `Thu, 02 Jan 2003 01:23:45 GMT`. -/
  | imfFixdate
  /-- `Thursday, 02-Jan-03 01:23:45 GMT`. -/
  | rfc850
  /-- `Thu Jan  2 01:23:45 2003`. -/
  | asctime
  /-- `2003-01-02T01:23:45Z`. -/
  | iso8601
  deriving DecidableEq

namespace Format

/-- The six formats, delays first. -/
def all : List Format :=
  [wholeSeconds, decimalSeconds, imfFixdate, rfc850, asctime, iso8601]

/-- The name of the format in log events. -/
def name : Format → String
  | wholeSeconds => "strict-seconds"
  | decimalSeconds => "decimal-seconds"
  | imfFixdate => "imf-fixdate"
  | rfc850 => "rfc-850"
  | asctime => "asctime"
  | iso8601 => "iso-8601"

/-- The name of the format in settings. -/
def id : Format → String
  | wholeSeconds => "strict_seconds"
  | decimalSeconds => "decimal_seconds"
  | imfFixdate => "imf_fixdate"
  | rfc850 => "rfc850"
  | asctime => "asctime"
  | iso8601 => "iso8601"

/-- The name of the format when a reader is shown. -/
def label : Format → String
  | wholeSeconds => "StrictSeconds"
  | decimalSeconds => "DecimalSeconds"
  | imfFixdate => "ImfFixdate"
  | rfc850 => "Rfc850"
  | asctime => "Asctime"
  | iso8601 => "Iso8601"

/-- The format names a date and not a delay. -/
def isDate : Format → Bool
  | wholeSeconds | decimalSeconds => false
  | _ => true

theorem mem_all (f : Format) : f ∈ all := by
  cases f <;> decide

end Format

/-- A usual choice of formats. -/
inductive Preset where
  /-- Whole seconds only. -/
  | secondsOnly
  /-- Whole or decimal seconds. -/
  | decimalSeconds
  /-- Whole seconds and the three dates that HTTP allows. -/
  | strict
  /-- Every format. -/
  | extended
  deriving DecidableEq

namespace Preset

/-- The four presets. -/
def all : List Preset :=
  [secondsOnly, decimalSeconds, strict, extended]

/-- The name of the preset in settings. -/
def id : Preset → String
  | secondsOnly => "seconds_only"
  | decimalSeconds => "decimal_seconds"
  | strict => "strict"
  | extended => "extended"

/-- The formats of the preset, in the order in which they are tried. -/
def formats : Preset → List Format
  | secondsOnly => [.wholeSeconds]
  | decimalSeconds => [.wholeSeconds, .decimalSeconds]
  | strict => [.wholeSeconds, .imfFixdate, .rfc850, .asctime]
  | extended => Format.all

instance : Inhabited Preset := ⟨extended⟩

theorem mem_all (p : Preset) : p ∈ all := by
  cases p <;> decide

end Preset

end RetryPolicy
