import RetryPolicy.Condition
import RetryPolicy.WaitRule

/-!
# All carriers of a response decide alike

A response made by hand looks its headers up in a list, an HTTP response looks them up by name, and either may stand behind
references or be something that could have been absent. As long as every header has a name and a value that HTTP can carry
as text, decisions see the same: the status, and under a name the value of the first header that was added under it, whatever
the case of its letters (`Carrier.view_eq_of_carries`). So no table, limit, condition, reader or layer tells the carriers of
one response apart, and what is absent, at any depth, is seen as a response with status 0 and no headers
(`carriers_decide_alike`).
-/

namespace RetryPolicy

open Text

/-! ## Values in bytes -/

theorem toNat_lt_of_isVisibleByte {b : UInt8} (h : isVisibleByte b = true) : b.toNat < 128 := by
  simp only [isVisibleByte, Bool.or_eq_true, beq_iff_eq, Bool.and_eq_true, decide_eq_true_eq] at h
  rcases h with rfl | ⟨-, h⟩
  · decide
  · exact Nat.lt_of_le_of_lt (UInt8.le_iff_toNat_le.1 h) (by decide)

namespace HeaderValue

/-- A character with visible bytes is in ASCII, and its one byte is its code. -/
theorem map_utf8EncodeChar {c : Char} (h : (String.utf8EncodeChar c).all isVisibleByte = true) :
    (String.utf8EncodeChar c).map (fun b => Char.ofNat b.toNat) = [c] := by
  by_cases hc : c.toNat ≤ 127
  · have hb : (UInt8.ofNat c.toNat).toNat = c.toNat := by
      rw [UInt8.toNat_ofNat']
      omega
    have he : String.utf8EncodeChar c = [UInt8.ofNat c.toNat] := if_pos hc
    rw [he, List.map_singleton, hb, Char.ofNat_toNat]
  · -- the first byte of a longer encoding has its highest bit set
    exfalso
    have hc' : ¬c.val.toNat ≤ 127 := hc
    rw [String.utf8EncodeChar, if_neg hc'] at h
    split at h
    · have hb := toNat_lt_of_isVisibleByte (List.all_eq_true.1 h _ List.mem_cons_self)
      rw [UInt8.toNat_ofNat'] at hb
      omega
    · split at h
      · have hb := toNat_lt_of_isVisibleByte (List.all_eq_true.1 h _ List.mem_cons_self)
        rw [UInt8.toNat_ofNat'] at hb
        omega
      · have hb := toNat_lt_of_isVisibleByte (List.all_eq_true.1 h _ List.mem_cons_self)
        rw [UInt8.toNat_ofNat'] at hb
        omega

/-- A text with visible bytes is the text of its bytes. -/
theorem text?_ofText {s : String} (h : (ofText s).all isVisibleByte = true) : text? (ofText s) = some s := by
  have back : ∀ cs : List Char, (cs.flatMap String.utf8EncodeChar).all isVisibleByte = true →
      (cs.flatMap String.utf8EncodeChar).map (fun b => Char.ofNat b.toNat) = cs := by
    intro cs
    induction cs with
    | nil => exact fun _ => rfl
    | cons c cs ih =>
      intro hall
      rw [List.flatMap_cons, List.all_append, Bool.and_eq_true] at hall
      rw [List.flatMap_cons, List.map_append, map_utf8EncodeChar hall.1, ih hall.2]
      rfl
  rw [text?, if_pos h, ofText, back s.toList h, String.ofList_toList]

end HeaderValue

/-! ## Headers by name -/

/-- Names that differ in the case of letters alone can both name a header, or neither can. -/
theorem isHeaderName_eq_of_sameName {a b : String} (h : sameName a.toList b.toList = true) :
    isHeaderName a = isHeaderName b := by
  have letters : ∀ c : Char, c.isAlpha = true → isNameChar c = true := by
    intro c hc
    rw [isNameChar, Char.isAlphanum, hc]
    rfl
  have hall := all_eq_of_sameName letters h
  have hlength := length_eq_of_sameName h
  have hempty : (a.toList != []) = (b.toList != []) := by
    rw [Bool.eq_iff_iff, bne_iff_ne, bne_iff_ne, ← List.length_pos_iff, ← List.length_pos_iff, hlength]
  rw [isHeaderName, isHeaderName, hall, hempty]

namespace HeaderMap

theorem values_cons (e : List Char × List HeaderValue) (es : List (List Char × List HeaderValue)) (name : String) :
    (HeaderMap.mk (e :: es)).values name = if e.1 = lower name.toList then e.2 else (HeaderMap.mk es).values name := by
  rw [values, List.find?_cons]
  by_cases h : e.1 = lower name.toList
  · rw [beq_iff_eq.2 h, if_pos h]
  · rw [beq_eq_false_iff_ne.2 h, if_neg h]
    rfl

/-- A value that is put under a key comes after those that the key has, and other keys keep theirs. -/
theorem values_insertAt (key : List Char) (v : HeaderValue) (entries : List (List Char × List HeaderValue)) (name : String) :
    (HeaderMap.mk (insertAt key v entries)).values name =
      (HeaderMap.mk entries).values name ++ if key = lower name.toList then [v] else [] := by
  induction entries with
  | nil =>
    rw [insertAt, values_cons]
    rfl
  | cons e es ih =>
    rw [insertAt, values_cons]
    by_cases he : e.1 = key
    · subst he
      rw [if_pos rfl, values_cons]
      by_cases hw : e.1 = lower name.toList
      · rw [if_pos hw, if_pos hw, if_pos hw]
      · rw [if_neg hw, if_neg hw, if_neg hw, List.append_nil]
    · rw [if_neg he, values_cons, ih]
      by_cases hw : e.1 = lower name.toList
      · have hk : key ≠ lower name.toList := fun h => he (hw.trans h.symm)
        rw [if_pos hw, if_pos hw, if_neg hk, List.append_nil]
      · rw [if_neg hw, if_neg hw]

theorem values_add (m : HeaderMap) (added name : String) (v : HeaderValue) :
    (m.add added v).values name = m.values name ++ if sameName added.toList name.toList then [v] else [] := by
  rw [add, values_insertAt]
  simp only [sameName_iff]

/-- The values under a name are those of its headers, in the order in which they were added. -/
theorem values_ofList (headers : List (String × HeaderValue)) (name : String) :
    (ofList headers).values name = (headers.filter fun h => sameName h.1.toList name.toList).map Prod.snd := by
  have all : ∀ m : HeaderMap, (headers.foldl (fun m h => m.add h.1 h.2) m).values name =
      m.values name ++ (headers.filter fun h => sameName h.1.toList name.toList).map Prod.snd := by
    induction headers with
    | nil => exact fun m => (List.append_nil _).symm
    | cons h hs ih =>
      intro m
      rw [List.foldl_cons, ih, values_add, List.append_assoc, List.filter_cons]
      cases sameName h.1.toList name.toList with
      | true => rfl
      | false => rfl
  rw [ofList, all]
  rfl

end HeaderMap

/-! ## The first header of a name -/

/-- A header with a name and a value that HTTP can carry as text. -/
def IsPlainHeader (h : String × String) : Prop :=
  isHeaderName h.1 = true ∧ (HeaderValue.ofText h.2).all isVisibleByte = true

instance (h : String × String) : Decidable (IsPlainHeader h) := inferInstanceAs (Decidable (_ ∧ _))

/-- The value of the first header of a name, whatever the case of its letters. -/
def firstUnder (name : String) (headers : List (String × String)) : Option String :=
  (headers.find? fun h => sameName h.1.toList name.toList).map Prod.snd

/-- The headers with their values in bytes. -/
def inBytes (headers : List (String × String)) : List (String × HeaderValue) :=
  headers.map fun h => (h.1, HeaderValue.ofText h.2)

namespace SampleResponse

@[simp] theorem status_ofList (status : UInt16) (headers : List (String × String)) :
    (ofList status headers).status = status := by
  have kept : ∀ r : SampleResponse, (headers.foldl (fun r h => r.withHeader h.1 h.2) r).status = r.status := by
    induction headers with
    | nil => exact fun r => rfl
    | cons h hs ih => exact fun r => ih (r.withHeader h.1 h.2)
  exact kept { status }

@[simp] theorem headers_ofList (status : UInt16) (headers : List (String × String)) :
    (ofList status headers).headers = headers := by
  have grown : ∀ r : SampleResponse, (headers.foldl (fun r h => r.withHeader h.1 h.2) r).headers = r.headers ++ headers := by
    induction headers with
    | nil => exact fun r => (List.append_nil _).symm
    | cons h hs ih =>
      intro r
      rw [List.foldl_cons, ih, withHeader, List.append_assoc]
      rfl
  exact grown { status }

theorem header_ofList (status : UInt16) (headers : List (String × String)) (name : String) :
    (ofList status headers).header name = firstUnder name headers := by
  rw [header, headers_ofList, firstUnder]

end SampleResponse

/-- The first header under a name is found by its name as well. A text that cannot name a header finds none, for all the
headers have names that can. -/
theorem HeaderMap.header_ofList {headers : List (String × String)} (hh : ∀ h ∈ headers, IsPlainHeader h) (name : String) :
    (ofList (inBytes headers)).header name = firstUnder name headers := by
  rw [header, firstUnder]
  by_cases hn : isHeaderName name = true
  · rw [if_pos hn, values_ofList, inBytes, List.filter_map, List.map_map, List.head?_map, List.head?_filter]
    show ((headers.find? fun h => sameName h.1.toList name.toList).map _).bind _ = _
    cases hf : headers.find? fun h => sameName h.1.toList name.toList with
    | none => rfl
    | some h => exact HeaderValue.text?_ofText (hh h (List.mem_of_find?_eq_some hf)).2
  · rw [if_neg hn]
    have hnone : (headers.find? fun h => sameName h.1.toList name.toList) = none := by
      rw [List.find?_eq_none]
      intro h hmem hsame
      rw [← isHeaderName_eq_of_sameName hsame] at hn
      exact hn (hh h hmem).1
    rw [hnone]
    rfl

/-! ## Carriers -/

/-- No table, limit, condition, reader or layer tells two responses apart, neither by its answer nor by the events. -/
structure Response.Alike (τ ε : Type) (r s : Response) : Prop where
  table : ∀ t : StatusTable, t.permits r = t.permits s
  limit : ∀ l : WaitLimit, l.permits r = l.permits s
  condition : ∀ p : Condition τ, p.evaluate r = p.evaluate s
  reader : ∀ reader : HeaderReader, reader.waitOf r = reader.waitOf s
  layer : ∀ (base : WaitRule ε) (reader : HeaderReader) (attempt : Nat),
    (WaitRule.honor base reader).pause attempt (.answered r) = (WaitRule.honor base reader).pause attempt (.answered s)

/-- Decisions ask for the status and for headers by name, and for nothing else. -/
theorem Response.alike_of_header {τ ε : Type} {r s : Response} (hs : r.status = s.status)
    (hh : ∀ name, r.header name = s.header name) : Response.Alike τ ε r s := by
  obtain ⟨status, header⟩ := r
  obtain ⟨status', header'⟩ := s
  obtain rfl : status = status' := hs
  obtain rfl : header = header' := funext hh
  exact ⟨fun _ => rfl, fun _ => rfl, fun _ => rfl, fun _ => rfl, fun _ _ _ => rfl⟩

namespace Carrier

variable {β τ ε : Type}

/-- The response of a status and headers, added in order, in each of the forms that it can have. -/
def forms (status : UInt16) (headers : List (String × String)) (body : β) : List (Carrier β) :=
  [sample (.ofList status headers), http ⟨.ofList status (inBytes headers), body⟩, head (.ofList status (inBytes headers))]

/-- A carrier has one of the forms of the response at its bottom. -/
def Carries (c : Carrier β) (status : UInt16) (headers : List (String × String)) (body : β) : Prop :=
  ∃ b ∈ forms status headers body, c.bottom? = some b

/-- Whatever carries a response, decisions see its status and its first header under each name. -/
theorem view_eq_of_carries {headers : List (String × String)} (hh : ∀ h ∈ headers, IsPlainHeader h) {c : Carrier β}
    {status : UInt16} {body : β} (hc : c.Carries status headers body) :
    c.view = ⟨status, fun name => firstUnder name headers⟩ := by
  have hlist : (SampleResponse.ofList status headers).view = ⟨status, fun name => firstUnder name headers⟩ := by
    rw [SampleResponse.view, SampleResponse.status_ofList]
    exact congrArg (Response.mk status) (funext (SampleResponse.header_ofList status headers))
  have hmap : (ResponseHead.ofList status (inBytes headers)).view = ⟨status, fun name => firstUnder name headers⟩ :=
    congrArg (Response.mk status) (funext (HeaderMap.header_ofList hh))
  obtain ⟨b, hb, hbottom⟩ := hc
  rw [view_eq_of_bottom? hbottom]
  simp only [forms, List.mem_cons, List.not_mem_nil, or_false] at hb
  rcases hb with rfl | rfl | rfl
  · exact hlist
  · exact hmap
  · exact hmap

/-- All carriers of a response decide alike. A response with headers that HTTP can carry as text may be made by hand, may be
an HTTP response or the head of one, and may stand behind references or be something that could have been absent: its status
is the same, and so is the value under each name, that of the first header that was added under it whatever the case of its
letters. No decision tells these carriers apart, and none tells what is absent, at any depth, from a response with status 0
and no headers. -/
theorem carriers_decide_alike (status : UInt16) {headers : List (String × String)} (hh : ∀ h ∈ headers, IsPlainHeader h)
    (body : β) :
    (∀ c : Carrier β, c.Carries status headers body →
      c.view.status = status ∧ ∀ name, c.view.header name = firstUnder name headers) ∧
    (∀ c d : Carrier β, c.Carries status headers body → d.Carries status headers body →
      Response.Alike τ ε c.view d.view) ∧
    (∀ c : Carrier β, c.bottom? = none →
      c.view.status = 0 ∧ (∀ name, c.view.header name = none) ∧
        Response.Alike τ ε c.view (SampleResponse.ofList 0 []).view) := by
  refine ⟨?_, ?_, ?_⟩
  · intro c hc
    rw [view_eq_of_carries hh hc]
    exact ⟨rfl, fun _ => rfl⟩
  · intro c d hc hd
    rw [view_eq_of_carries hh hc, view_eq_of_carries hh hd]
    exact Response.alike_of_header rfl fun _ => rfl
  · intro c hc
    rw [view_eq_absent hc]
    exact ⟨rfl, fun _ => rfl, Response.alike_of_header rfl fun _ => rfl⟩

/-- A reference to an HTTP response and a response made by hand behind two layers of absence, with two headers under one
name in different letters. -/
theorem http_and_sample_carry_first_header :
    let headers := [("X-Id", "1"), ("retry-AFTER", "5"), ("Retry-After", "60")]
    let c : Carrier String := reference (http ⟨.ofList 503 (inBytes headers), "body"⟩)
    let d : Carrier String := present (present (sample (.ofList 503 headers)))
    (∀ h ∈ headers, IsPlainHeader h) ∧ c.Carries 503 headers "body" ∧ d.Carries 503 headers "body" ∧
      c.view.retryAfter = some "5" ∧ d.view.retryAfter = some "5" ∧ Response.Alike Empty Empty c.view d.view := by
  intro headers c d
  have hh : ∀ h ∈ headers, IsPlainHeader h := by decide
  have hc : c.Carries 503 headers "body" := ⟨_, List.mem_cons_of_mem _ List.mem_cons_self, rfl⟩
  have hd : d.Carries 503 headers "body" := ⟨_, List.mem_cons_self, rfl⟩
  have hfirst : firstUnder "retry-after" headers = some "5" := by decide
  obtain ⟨seen, alike, -⟩ := carriers_decide_alike (τ := Empty) (ε := Empty) 503 hh "body"
  refine ⟨hh, hc, hd, ?_, ?_, alike c d hc hd⟩
  · rw [Response.retryAfter, (seen c hc).2, hfirst]
  · rw [Response.retryAfter, (seen d hd).2, hfirst]

end Carrier

end RetryPolicy
