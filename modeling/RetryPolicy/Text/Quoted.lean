import RetryPolicy.Text.Unprintable

/-!
# Quoted text

Header text reaches a log inside double quotes. `quoted` writes five characters and the double quote with a backslash
and a letter, sign or digit, writes what is not printable or joins its neighbour as `\u` and its code point in braces,
and all else as it is, so that the quoted form holds no control character.
-/

namespace RetryPolicy.Text

/-- The code point of a character in braces, in small hexadecimal digits without leading zeros. -/
def codePoint (c : Char) : List Char :=
  '\\' :: 'u' :: '\x7b' :: Nat.toDigits 16 c.toNat ++ ['\x7d']

/-- How one character is written between double quotes. -/
def escaped (c : Char) : List Char :=
  if c = '\x00' then ['\\', '0']
  else if c = '\t' then ['\\', 't']
  else if c = '\r' then ['\\', 'r']
  else if c = '\n' then ['\\', 'n']
  else if c = '\\' then ['\\', '\\']
  else if c = '"' then ['\\', '"']
  else if isCombining c || isUnprintable c then codePoint c
  else [c]

/-- The characters of a text as they stand between double quotes. -/
def escapedAll (cs : List Char) : List Char :=
  cs.flatMap escaped

/-- The text in double quotes. -/
def quoted (s : String) : String :=
  String.ofList ('"' :: escapedAll s.toList ++ ['"'])

@[simp] theorem escapedAll_nil : escapedAll [] = [] := rfl

@[simp] theorem escapedAll_cons (c : Char) (cs : List Char) : escapedAll (c :: cs) = escaped c ++ escapedAll cs := rfl

end RetryPolicy.Text
