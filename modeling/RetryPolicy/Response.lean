import RetryPolicy.Text.Letters
import RetryPolicy.Text.Decimal
import RetryPolicy.Text.Quoted

/-!
# Responses

Decisions read two things of a response: its status and the text of a named header. `Response` is that view. There are
two ways to keep headers behind it: a `SampleResponse` has a list of them and takes the first whose name matches, a
`HeaderMap` keeps the values of each name together under the name in small letters and shows only values that are
visible ASCII. A response that is absent has status 0 and no headers. A `Carrier` is what decisions are asked about: a
response of either sort behind any number of references, perhaps absent.
-/

namespace RetryPolicy

open Text

/-- What retry decisions read of a response. -/
structure Response where
  status : UInt16
  header : String → Option String

namespace Response

/-- The text of the Retry-After header. -/
def retryAfter (r : Response) : Option String :=
  r.header "retry-after"

/-- The view of no response. -/
def absent : Response := ⟨0, fun _ => none⟩

/-- The view of a response that may be absent. -/
def ofOption (r : Option Response) : Response :=
  r.getD absent

@[simp] theorem ofOption_some (r : Response) : ofOption (some r) = r := rfl

@[simp] theorem ofOption_none : ofOption none = absent := rfl

end Response

/-! ## A list of headers -/

/-- A response made by hand, with any text as a header's name or value. -/
structure SampleResponse where
  status : UInt16
  headers : List (String × String) := []
  deriving DecidableEq

namespace SampleResponse

/-- The response with one more header after the others. -/
def withHeader (r : SampleResponse) (name value : String) : SampleResponse :=
  { r with headers := r.headers ++ [(name, value)] }

/-- The response with these headers, added in order. -/
def ofList (status : UInt16) (headers : List (String × String)) : SampleResponse :=
  headers.foldl (fun r h => r.withHeader h.1 h.2) { status }

/-- The response with a Retry-After header after the others. -/
def withRetryAfter (r : SampleResponse) (value : String) : SampleResponse :=
  r.withHeader "Retry-After" value

/-- The first header of a name, whatever the case of its letters. -/
def header (r : SampleResponse) (name : String) : Option String :=
  (r.headers.find? fun h => sameName h.1.toList name.toList).map Prod.snd

/-- The response as decisions see it. -/
def view (r : SampleResponse) : Response := ⟨r.status, r.header⟩

/-- A name and a value in parentheses, both quoted. -/
def describeHeader (h : String × String) : String :=
  "(" ++ quoted h.1 ++ ", " ++ quoted h.2 ++ ")"

/-- The response on one line. -/
def describe (r : SampleResponse) : String :=
  "MockResponse \x7b status: " ++ String.ofList (digits r.status.toNat) ++ ", headers: ["
    ++ ", ".intercalate (r.headers.map describeHeader) ++ "] \x7d"

end SampleResponse

/-! ## Headers kept by name -/

/-- The characters of a header's name: ASCII letters, digits and fifteen signs. -/
def isNameChar (c : Char) : Bool :=
  c.isAlphanum || "!#$%&\x27*+-.^_\x60|~".toList.contains c

/-- The text can name a header. -/
def isHeaderName (name : String) : Bool :=
  name.toList != [] && name.toList.all isNameChar

/-- A header's value in bytes. -/
abbrev HeaderValue := List UInt8

/-- A text in the bytes of its UTF-8 encoding. -/
def HeaderValue.ofText (s : String) : HeaderValue :=
  s.toList.flatMap String.utf8EncodeChar

/-- The byte is a tab or an ASCII character from the space to the tilde. -/
def isVisibleByte (b : UInt8) : Bool :=
  b == 9 || (32 ≤ b && b ≤ 126)

/-- The text of a value; a value with a byte that is not visible has none. -/
def HeaderValue.text? (v : HeaderValue) : Option String :=
  if v.all isVisibleByte then some (String.ofList (v.map fun b => Char.ofNat b.toNat)) else none

/-- Values by name. A name stands once, in small letters, with its values in the order in which they were added. -/
structure HeaderMap where
  entries : List (List Char × List HeaderValue) := []
  deriving DecidableEq

namespace HeaderMap

/-- One more value under a key: after the values it has, or in a new entry at the end. -/
def insertAt (key : List Char) (v : HeaderValue) :
    List (List Char × List HeaderValue) → List (List Char × List HeaderValue)
  | [] => [(key, [v])]
  | e :: es => if e.1 = key then (e.1, e.2 ++ [v]) :: es else e :: insertAt key v es

/-- The map with one more value under a name. -/
def add (m : HeaderMap) (name : String) (v : HeaderValue) : HeaderMap :=
  ⟨insertAt (lower name.toList) v m.entries⟩

/-- The map of a list of headers, added in order. -/
def ofList (headers : List (String × HeaderValue)) : HeaderMap :=
  headers.foldl (fun m h => m.add h.1 h.2) {}

/-- All the values under a name. -/
def values (m : HeaderMap) (name : String) : List HeaderValue :=
  match m.entries.find? fun e => e.1 == lower name.toList with
  | some e => e.2
  | none => []

/-- The text of the first value under a name. A text that cannot name a header finds nothing. -/
def header (m : HeaderMap) (name : String) : Option String :=
  if isHeaderName name then (m.values name).head?.bind HeaderValue.text? else none

/-- A response with these headers as decisions see it. -/
def view (m : HeaderMap) (status : UInt16) : Response := ⟨status, m.header⟩

end HeaderMap

/-! ## What a decision may be asked about -/

/-- The head of an HTTP response. -/
structure ResponseHead where
  status : UInt16
  headers : HeaderMap := {}
  deriving DecidableEq

/-- The head as decisions see it. -/
def ResponseHead.view (h : ResponseHead) : Response := h.headers.view h.status

/-- The head with these headers, added in order. -/
def ResponseHead.ofList (status : UInt16) (headers : List (String × HeaderValue)) : ResponseHead :=
  ⟨status, HeaderMap.ofList headers⟩

/-- An HTTP response. No decision reads its body. -/
structure HttpResponse (β : Type) where
  head : ResponseHead
  body : β

/-- What a decision may be asked about: a response, or a reference to one, or one that may be absent, in any nesting. -/
inductive Carrier (β : Type) where
  | sample (r : SampleResponse)
  | http (r : HttpResponse β)
  | head (h : ResponseHead)
  /-- A reference to something that carries a response. -/
  | reference (c : Carrier β)
  /-- Something that could have been absent and is there. -/
  | present (c : Carrier β)
  /-- Nothing where something could have been. -/
  | missing

namespace Carrier

variable {β : Type}

/-- The response as decisions see it. -/
def view : Carrier β → Response
  | sample r => r.view
  | http r => r.head.view
  | head h => h.view
  | reference c => c.view
  | present c => Response.ofOption (some c.view)
  | missing => Response.ofOption none

/-- What is found behind all references, unless something on the way is absent. -/
def bottom? : Carrier β → Option (Carrier β)
  | reference c => c.bottom?
  | present c => c.bottom?
  | missing => none
  | sample r => some (sample r)
  | http r => some (http r)
  | head h => some (head h)

/-- Neither references nor the possibility of absence change what decisions see. -/
theorem view_eq_of_bottom? {c b : Carrier β} (h : c.bottom? = some b) : c.view = b.view := by
  induction c with
  | reference c ih => exact ih h
  | present c ih => exact ih h
  | missing => cases h
  | sample r =>
    cases h
    rfl
  | http r =>
    cases h
    rfl
  | head r =>
    cases h
    rfl

/-- What is absent, however deep, is seen as no response. -/
theorem view_eq_absent {c : Carrier β} (h : c.bottom? = none) : c.view = Response.absent := by
  induction c with
  | reference c ih => exact ih h
  | present c ih => exact ih h
  | missing => rfl
  | sample r => cases h
  | http r => cases h
  | head r => cases h

end Carrier

end RetryPolicy
