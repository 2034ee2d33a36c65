import RetryPolicy.Json.Reader
import RetryPolicy.Settings

/-!
# Settings as JSON

Settings are written as a JSON object with four fields and read from one. A field that is missing keeps its default,
an unknown field is passed over and a known field that stands twice is an error, as is any number that is not an
integer in range. An array gives the fields in order, and may end early.
-/

namespace RetryPolicy

/-- The value of a name, as a string or as an object whose one member has that name and is null. -/
def named? {α : Type} (all : List α) (id : α → String) : Json → Option α
  | .string (some s) => all.find? fun a => id a == s
  | .object [(some s, .null)] => all.find? fun a => id a == s
  | _ => none

/-- The mode, preset or format that a JSON text names. -/
def readNamed? {α : Type} (all : List α) (id : α → String) (text : String) : Option α :=
  (Json.read? text.toList).bind (named? all id)

namespace Settings

/-! ## Fields -/

/-- A status: an integer of 16 bits. -/
def status? (v : Json) : Option UInt16 := do
  let n ← v.natural?
  if n < 0x10000 then some (UInt16.ofNat n) else none

/-- An array of statuses. -/
def statuses? : Json → Option (List UInt16)
  | .array items => items.mapM status?
  | _ => none

/-- A longest wait: null for none, or an integer of 64 bits. -/
def maxWait? : Json → Option (Option Millis)
  | .null => some none
  | v => do
    let m ← Millis.ofNat? (← v.natural?)
    return some m

/-- The fields that have been read so far. -/
structure Draft where
  mode : Option Mode := none
  extraStatuses : Option (List UInt16) := none
  maxWait : Option (Option Millis) := none
  preset : Option Preset := none

namespace Draft

/-- A value for a field that has none yet. -/
def fill {α : Type} (old new : Option α) : Option (Option α) :=
  match old, new with
  | none, some a => some (some a)
  | _, _ => none

/-- One more member of the object. -/
def add (d : Draft) : JsonText × Json → Option Draft
  | (none, _) => none
  | (some key, v) =>
    if key = "mode" then do
      return { d with mode := ← fill d.mode (named? Mode.all Mode.id v) }
    else if key = "retry_codes" then do
      return { d with extraStatuses := ← fill d.extraStatuses (statuses? v) }
    else if key = "max_wait_ms" then do
      return { d with maxWait := ← fill d.maxWait (maxWait? v) }
    else if key = "parser" then do
      return { d with preset := ← fill d.preset (named? Preset.all Preset.id v) }
    else
      some d

/-- The settings with defaults for the fields that were not read. -/
def settings (d : Draft) : Settings where
  mode := d.mode.getD .idempotent
  extraStatuses := d.extraStatuses.getD []
  maxWait := d.maxWait.getD none
  preset := d.preset.getD .extended

end Draft

/-! ## Reading and writing -/

/-- The names of the fields, in order. -/
def fieldNames : List String :=
  ["mode", "retry_codes", "max_wait_ms", "parser"]

/-- The settings of named values, each name a known one at most once. -/
def ofMembers? (members : List (JsonText × Json)) : Option Settings :=
  (members.foldlM Draft.add {}).map Draft.settings

/-- The settings that a JSON value stands for. -/
def ofJson? : Json → Option Settings
  | .object members => ofMembers? members
  | .array items => if items.length ≤ fieldNames.length then ofMembers? ((fieldNames.map some).zip items) else none
  | _ => none

/-- The settings of a JSON text. -/
def read? (text : String) : Option Settings :=
  (Json.read? text.toList).bind ofJson?

/-- The settings as a JSON value. -/
def toJson (s : Settings) : Json :=
  .object
    [(some "mode", .ofString s.mode.id),
      (some "retry_codes", .array (s.extraStatuses.map fun code => .ofNat code.toNat)),
      (some "max_wait_ms", match s.maxWait with
        | some m => .ofNat m.count
        | none => .null),
      (some "parser", .ofString s.preset.id)]

/-- The settings as compact JSON text. -/
def write (s : Settings) : String :=
  String.ofList s.toJson.write

end Settings

end RetryPolicy
