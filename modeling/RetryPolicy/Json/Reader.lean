import RetryPolicy.Json.Value
import RetryPolicy.Text.Scan

/-!
# Reading JSON

`Json.read?` accepts the texts of the JSON grammar and no others. Each step takes a part of a value from the front of
a text and leaves the rest; blanks are skipped in front of a value and of a mark. The steps that call each other count
down from a number that no text is long enough to exhaust.
-/

namespace RetryPolicy.Json

open Text

/-- Space, line feed, carriage return and tab. -/
def isBlank (c : Char) : Bool :=
  c == ' ' || c == '\n' || c == '\r' || c == '\t'

/-- The text without the blanks in front. -/
def skipBlanks (cs : List Char) : List Char :=
  cs.dropWhile isBlank

/-! ## Strings -/

/-- The value of a hexadecimal digit in either case. -/
def hexDigit? (c : Char) : Option Nat :=
  if '0' ≤ c ∧ c ≤ '9' then some (c.toNat - 48)
  else if 'a' ≤ c ∧ c ≤ 'f' then some (c.toNat - 87)
  else if 'A' ≤ c ∧ c ≤ 'F' then some (c.toNat - 55)
  else none

/-- The value of four hexadecimal digits. -/
def hexFour? (a b c d : Char) : Option Nat := do
  return (((← hexDigit? a) * 16 + (← hexDigit? b)) * 16 + (← hexDigit? c)) * 16 + (← hexDigit? d)

/-- The code point that a backslash and this character stand for. -/
def shortEscape? : Char → Option Nat
  | '"' => some 0x22
  | '\\' => some 0x5c
  | '/' => some 0x2f
  | 'b' => some 0x08
  | 'f' => some 0x0c
  | 'n' => some 0x0a
  | 'r' => some 0x0d
  | 't' => some 0x09
  | _ => none

/-- The code units of a string up to its closing quote, where a character of the text counts as one. -/
def readUnits : List Char → Option (List Nat × List Char)
  | '"' :: r => some ([], r)
  | '\\' :: 'u' :: a :: b :: c :: d :: r => do
    let unit ← hexFour? a b c d
    let (units, r) ← readUnits r
    return (unit :: units, r)
  | '\\' :: e :: r => do
    let unit ← shortEscape? e
    let (units, r) ← readUnits r
    return (unit :: units, r)
  | c :: r =>
    if c.toNat < 0x20 ∨ c = '\\' then none
    else do
      let (units, r) ← readUnits r
      return (c.toNat :: units, r)
  | [] => none

/-- The characters of code units. The two halves of a surrogate pair must stand together. -/
def decodeUnits : List Nat → Option (List Char)
  | [] => some []
  | [u] => if 0xd800 ≤ u ∧ u < 0xe000 then none else some [Char.ofNat u]
  | u :: v :: us =>
    if 0xd800 ≤ u ∧ u < 0xdc00 then
      if 0xdc00 ≤ v ∧ v < 0xe000 then
        (decodeUnits us).map (Char.ofNat (0x10000 + (u - 0xd800) * 0x400 + (v - 0xdc00)) :: ·)
      else none
    else if 0xdc00 ≤ u ∧ u < 0xe000 then none
    else (decodeUnits (v :: us)).map (Char.ofNat u :: ·)

/-- A string after its opening quote. -/
def readText (cs : List Char) : Option (JsonText × List Char) := do
  let (units, r) ← readUnits cs
  return ((decodeUnits units).map String.ofList, r)

/-! ## Numbers -/

/-- The whole part of a number: a zero alone, or digits that begin with another. -/
def readWhole : List Char → Option (List Char × List Char)
  | '0' :: r => some (['0'], r)
  | cs => run Char.isDigit cs

/-- A point and digits, if there is a point. -/
def readFraction : List Char → Option (List Char × List Char)
  | '.' :: r => (run Char.isDigit r).map fun (ds, r) => ('.' :: ds, r)
  | cs => some ([], cs)

/-- A sign, if there is one. -/
def readSign : List Char → List Char × List Char
  | '+' :: r => (['+'], r)
  | '-' :: r => (['-'], r)
  | cs => ([], cs)

/-- An exponent, if there is one. -/
def readExponent : List Char → Option (List Char × List Char)
  | c :: r =>
    if c = 'e' ∨ c = 'E' then
      (run Char.isDigit (readSign r).2).map fun (ds, rest) => (c :: (readSign r).1 ++ ds, rest)
    else some ([], c :: r)
  | [] => some ([], [])

/-- A number without its sign. -/
def readUnsigned (cs : List Char) : Option (List Char × List Char) := do
  let (whole, cs) ← readWhole cs
  let (fraction, cs) ← readFraction cs
  let (exponent, cs) ← readExponent cs
  return (whole ++ fraction ++ exponent, cs)

/-- A number. -/
def readNumber : List Char → Option (List Char × List Char)
  | '-' :: r => (readUnsigned r).map fun (lexeme, r) => ('-' :: lexeme, r)
  | cs => readUnsigned cs

/-! ## Values -/

mutual

/-- A value at the front of a text. -/
def readValue : Nat → List Char → Option (Json × List Char)
  | 0, _ => none
  | n + 1, cs =>
    match skipBlanks cs with
    | 'n' :: 'u' :: 'l' :: 'l' :: r => some (null, r)
    | 't' :: 'r' :: 'u' :: 'e' :: r => some (bool true, r)
    | 'f' :: 'a' :: 'l' :: 's' :: 'e' :: r => some (bool false, r)
    | '"' :: r => (readText r).map fun (s, r) => (string s, r)
    | '[' :: r =>
      match skipBlanks r with
      | ']' :: r => some (array [], r)
      | r => (readItems n r).map fun (items, r) => (array items, r)
    | '\x7b' :: r =>
      match skipBlanks r with
      | '\x7d' :: r => some (object [], r)
      | r => (readMembers n r).map fun (members, r) => (object members, r)
    | r => (readNumber r).map fun (lexeme, r) => (number lexeme, r)

/-- Values up to the end of an array. -/
def readItems : Nat → List Char → Option (List Json × List Char)
  | 0, _ => none
  | n + 1, cs => do
    let (item, r) ← readValue n cs
    match skipBlanks r with
    | ',' :: r =>
      let (items, r) ← readItems n r
      return (item :: items, r)
    | ']' :: r => return ([item], r)
    | _ => none

/-- Names and values up to the end of an object. -/
def readMembers : Nat → List Char → Option (List (JsonText × Json) × List Char)
  | 0, _ => none
  | n + 1, cs =>
    match skipBlanks cs with
    | '"' :: r => do
      let (key, r) ← readText r
      match skipBlanks r with
      | ':' :: r =>
        let (item, r) ← readValue n r
        match skipBlanks r with
        | ',' :: r =>
          let (members, r) ← readMembers n r
          return ((key, item) :: members, r)
        | '\x7d' :: r => return ([(key, item)], r)
        | _ => none
      | _ => none
    | _ => none

end

/-- The value of a text, which may have blanks around it and nothing else. -/
def read? (cs : List Char) : Option Json :=
  match readValue (2 * cs.length + 2) cs with
  | some (v, r) => if skipBlanks r = [] then some v else none
  | none => none

end RetryPolicy.Json
