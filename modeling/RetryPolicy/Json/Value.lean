import RetryPolicy.Text.Decimal

/-!
# JSON values

A `Json` value keeps what its text says that matters to a reader: the digits of a number as they stand, the members of
an object in order with repeated names, and of a string its text, unless an escape in it names half a character.
`Json.write` is the compact text of a value.
-/

namespace RetryPolicy

open Text

/-- The text of a string, or nothing when an escape in it names half of a surrogate pair alone. -/
abbrev JsonText := Option String

/-- A JSON value. -/
inductive Json where
  | null
  | bool (b : Bool)
  | number (lexeme : List Char)
  | string (s : JsonText)
  | array (items : List Json)
  | object (members : List (JsonText × Json))

namespace Json

/-- A number in digits. -/
def ofNat (n : Nat) : Json := number (digits n)

/-- A string that has a text. -/
def ofString (s : String) : Json := string (some s)

/-- The number that a value denotes, if it is written with digits alone. -/
def natural? : Json → Option Nat
  | number lexeme => if lexeme.all Char.isDigit then some (value lexeme) else none
  | _ => none

/-- How a character stands in a string. -/
def escape (c : Char) : List Char :=
  if c = '"' then ['\\', '"']
  else if c = '\\' then ['\\', '\\']
  else if c = '\x08' then ['\\', 'b']
  else if c = '\x0c' then ['\\', 'f']
  else if c = '\n' then ['\\', 'n']
  else if c = '\r' then ['\\', 'r']
  else if c = '\t' then ['\\', 't']
  else if c.toNat < 0x20 then
    ['\\', 'u', '0', '0', if c.toNat < 0x10 then '0' else '1', Nat.digitChar (c.toNat % 16)]
  else [c]

/-- A string with its quotes. A string without a text is one half of a surrogate pair. -/
def writeText : JsonText → List Char
  | some s => '"' :: s.toList.flatMap escape ++ ['"']
  | none => ['"', '\\', 'u', 'd', '8', '0', '0', '"']

mutual

/-- The compact text of a value. -/
def write : Json → List Char
  | null => ['n', 'u', 'l', 'l']
  | bool true => ['t', 'r', 'u', 'e']
  | bool false => ['f', 'a', 'l', 's', 'e']
  | number lexeme => lexeme
  | string s => writeText s
  | array items => '[' :: writeItems items ++ [']']
  | object members => '\x7b' :: writeMembers members ++ ['\x7d']

/-- Values with commas between them. -/
def writeItems : List Json → List Char
  | [] => []
  | [v] => write v
  | v :: w :: vs => write v ++ ',' :: writeItems (w :: vs)

/-- Names and values with commas between them. -/
def writeMembers : List (JsonText × Json) → List Char
  | [] => []
  | [(k, v)] => writeText k ++ ':' :: write v
  | (k, v) :: m :: ms => writeText k ++ ':' :: write v ++ ',' :: writeMembers (m :: ms)

end

end Json

end RetryPolicy
