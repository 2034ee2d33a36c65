import RetryPolicy.Proofs.JsonText
import RetryPolicy.Settings.Json

/-!
# Settings are read field by field

Settings have four fields (`Field`), each with a name and with values that stand for what it can hold (`Field.Stands`). An
object is read member by member, and each member fills one field or none, so reading the members comes apart into reading the
values of each field (`Draft.foldlM_add_eq_some_iff`). A field gets its default from no value, what the value stands for from
one, and nothing from several (`Field.Given`, `ofMembers?_eq_some_iff`). What an object stands for therefore depends on
nothing but the values of its fields (`SameFields`), and an array is the object that gives its values to the fields in order.
-/

namespace RetryPolicy

/-! ## Values -/

/-- The value names a thing: as a string, or as an object whose one member has the name and is null. -/
def Json.Names {α : Type} (id : α → String) (v : Json) (a : α) : Prop :=
  v = .ofString (id a) ∨ v = .object [(some (id a), .null)]

/-- An entry is found by its name, if no other has that name. -/
theorem find?_id_eq_some_iff {α : Type} {all : List α} {id : α → String} (hall : ∀ a, a ∈ all)
    (hid : ∀ a b, id a = id b → a = b) {s : String} {a : α} : (all.find? fun b => id b == s) = some a ↔ id a = s := by
  constructor
  · intro h
    exact eq_of_beq (List.find?_some (p := fun b => id b == s) h)
  · rintro rfl
    cases hfind : all.find? fun b => id b == id a with
    | none => exact absurd (beq_self_eq_true (id a)) (List.find?_eq_none.1 hfind a (hall a))
    | some b => rw [hid b a (eq_of_beq (List.find?_some (p := fun b => id b == id a) hfind))]

theorem named?_eq_some_iff {α : Type} {all : List α} {id : α → String} (hall : ∀ a, a ∈ all)
    (hid : ∀ a b, id a = id b → a = b) {v : Json} {a : α} : named? all id v = some a ↔ v.Names id a := by
  have hfind (s : String) : (all.find? fun b => id b == s) = some a ↔ id a = s := find?_id_eq_some_iff hall hid
  unfold named?
  split
  · rename_i s
    simp [hfind, Json.Names, Json.ofString, eq_comm]
  · rename_i s
    simp [hfind, Json.Names, Json.ofString, eq_comm]
  · rename_i hstring hobject
    simp only [reduceCtorEq, false_iff]
    rintro (rfl | rfl)
    · exact hstring _ rfl
    · exact hobject _ rfl

theorem Mode.id_inj {m n : Mode} (h : m.id = n.id) : m = n := by
  cases m <;> cases n <;> first | rfl | exact absurd h (by decide)

theorem Preset.id_inj {p q : Preset} (h : p.id = q.id) : p = q := by
  cases p <;> cases q <;> first | rfl | exact absurd h (by decide)

/-- A value that can stand in a text is a natural number exactly when it is written as one. -/
theorem Json.natural?_eq_some_iff {v : Json} (hv : v.WellFormed) {n : Nat} : v.natural? = some n ↔ v = .ofNat n := by
  constructor
  · intro h
    unfold natural? at h
    split at h
    · rename_i lexeme
      split at h
      · rename_i hdigits
        cases h
        cases hv with
        | number hnumber => rw [ofNat, hnumber.digits_value hdigits]
      · cases h
    · cases h
  · rintro rfl
    rw [ofNat, natural?, if_pos (Text.all_isDigit_digits n), Text.value_digits]

namespace Settings

theorem status?_eq_some_iff {v : Json} (hv : v.WellFormed) {code : UInt16} :
    status? v = some code ↔ v = .ofNat code.toNat := by
  have hstatus : status? v = v.natural?.bind fun n => if n < 0x10000 then some (UInt16.ofNat n) else none := rfl
  rw [hstatus, Option.bind_eq_some_iff]
  simp only [Json.natural?_eq_some_iff hv, Option.ite_none_right_eq_some, Option.some.injEq]
  constructor
  · rintro ⟨n, rfl, hn, rfl⟩
    rw [UInt16.toNat_ofNat', Nat.mod_eq_of_lt hn]
  · rintro rfl
    exact ⟨code.toNat, rfl, code.toNat_lt, UInt16.ofNat_toNat⟩

theorem mapM_status?_eq_some_iff {items : List Json} (hitems : ∀ v ∈ items, v.WellFormed) {codes : List UInt16} :
    items.mapM status? = some codes ↔ items = codes.map fun code => .ofNat code.toNat := by
  induction items generalizing codes with
  | nil => cases codes <;> simp
  | cons v items ih =>
    obtain ⟨hv, hrest⟩ := List.forall_mem_cons.1 hitems
    rw [List.mapM_cons]
    simp only [Option.bind_eq_bind, Option.bind_eq_some_iff, Option.pure_def, Option.some.injEq, status?_eq_some_iff hv,
      ih hrest]
    cases codes with
    | nil => simp
    | cons code codes => simp

theorem statuses?_eq_some_iff {v : Json} (hv : v.WellFormed) {codes : List UInt16} :
    statuses? v = some codes ↔ v = .array (codes.map fun code => .ofNat code.toNat) := by
  cases hv with
  | array hitems =>
    rw [statuses?, mapM_status?_eq_some_iff hitems, Json.array.injEq]
  | _ => simp [statuses?]

theorem maxWait?_eq_some_iff {v : Json} (hv : v.WellFormed) {w : Option Millis} :
    maxWait? v = some w ↔ v = .null ∧ w = none ∨ ∃ m, v = .ofNat m.count ∧ w = some m := by
  by_cases hnull : v = .null
  · subst v
    simp [maxWait?, Json.ofNat, eq_comm]
  · have hmaxWait : maxWait? v = v.natural?.bind fun n => (Millis.ofNat? n).bind fun m => some (some m) := by
      cases v <;> first | rfl | exact absurd rfl hnull
    simp only [hmaxWait, Option.bind_eq_some_iff, Json.natural?_eq_some_iff hv, Millis.ofNat?_eq_some_iff, Option.some.injEq,
      hnull, false_and, false_or]
    constructor
    · rintro ⟨n, hn, m, rfl, rfl⟩
      exact ⟨m, hn, rfl⟩
    · rintro ⟨m, hm, rfl⟩
      exact ⟨m.count, hm, m, rfl, rfl⟩

/-! ## Fields -/

/-- A field of settings. -/
inductive Field where
  | mode
  | extraStatuses
  | maxWait
  | preset
  deriving DecidableEq

namespace Field

/-- The name of the field in an object. -/
def name : Field → String
  | mode => "mode"
  | extraStatuses => "retry_codes"
  | maxWait => "max_wait_ms"
  | preset => "parser"

/-- What the field holds. -/
abbrev Content : Field → Type
  | mode => Mode
  | extraStatuses => List UInt16
  | maxWait => Option Millis
  | preset => Preset

/-- The value stands for this content: a mode or preset by its name, statuses by an array of their numbers, a longest wait by
its number of milliseconds or by null. -/
def Stands : (f : Field) → Json → f.Content → Prop
  | mode, v, m => v.Names Mode.id m
  | extraStatuses, v, codes => v = .array (codes.map fun code => .ofNat code.toNat)
  | maxWait, v, w => v = .null ∧ w = none ∨ ∃ m, v = .ofNat m.count ∧ w = some m
  | preset, v, p => v.Names Preset.id p

/-- The content that a value stands for. -/
def read? : (f : Field) → Json → Option f.Content
  | mode => named? Mode.all Mode.id
  | extraStatuses => statuses?
  | maxWait => maxWait?
  | preset => named? Preset.all Preset.id

theorem read?_eq_some_iff {f : Field} {v : Json} (hv : v.WellFormed) {a : f.Content} :
    f.read? v = some a ↔ f.Stands v a := by
  cases f with
  | mode => exact named?_eq_some_iff Mode.mem_all fun _ _ => Mode.id_inj
  | extraStatuses => exact statuses?_eq_some_iff hv
  | maxWait => exact maxWait?_eq_some_iff hv
  | preset => exact named?_eq_some_iff Preset.mem_all fun _ _ => Preset.id_inj

theorem name_inj {f g : Field} (h : f.name = g.name) : f = g := by
  cases f <;> cases g <;> first | rfl | exact absurd h (by decide)

/-- The values that an object has for the field, in order. -/
def values (f : Field) (members : List (JsonText × Json)) : List Json :=
  (members.filter fun m => m.1 = some f.name).map Prod.snd

theorem values_cons (f : Field) (m : JsonText × Json) (members : List (JsonText × Json)) :
    f.values (m :: members) = f.values [m] ++ f.values members := by
  rw [values, values, values, ← List.map_append, ← List.filter_append, List.singleton_append]

end Field

/-- What the settings hold in a field. -/
def get (s : Settings) : (f : Field) → f.Content
  | .mode => s.mode
  | .extraStatuses => s.extraStatuses
  | .maxWait => s.maxWait
  | .preset => s.preset

/-- Settings are what they hold in each field. -/
theorem ext_get {s t : Settings} (h : ∀ f, s.get f = t.get f) : s = t := by
  obtain ⟨mode, codes, maxWait, preset⟩ := s
  obtain ⟨mode', codes', maxWait', preset'⟩ := t
  obtain rfl : mode = mode' := h .mode
  obtain rfl : codes = codes' := h .extraStatuses
  obtain rfl : maxWait = maxWait' := h .maxWait
  obtain rfl : preset = preset' := h .preset
  rfl

/-- Contents for all fields make settings. -/
theorem exists_get {P : (f : Field) → f.Content → Prop} (h : ∀ f, ∃ a, P f a) :
    ∃ s : Settings, ∀ f, P f (s.get f) := by
  obtain ⟨a, ha⟩ := Classical.skolem.1 h
  refine ⟨⟨a .mode, a .extraStatuses, a .maxWait, a .preset⟩, ?_⟩
  intro f
  cases f <;> exact ha _

/-- What a field gets from its values: its default from none, what it stands for from one, and nothing from several. -/
inductive Field.Given (f : Field) : List Json → f.Content → Prop
  | default : Given f [] (({} : Settings).get f)
  | value {v : Json} {a : f.Content} (h : f.Stands v a) : Given f [v] a

/-- A field can be given something exactly when it has one value at most, which stands for something. -/
theorem Field.exists_given_iff {f : Field} {vs : List Json} :
    (∃ a, f.Given vs a) ↔ vs.length ≤ 1 ∧ ∀ v ∈ vs, ∃ a, f.Stands v a := by
  constructor
  · rintro ⟨a, h⟩
    cases h with
    | default => simp
    | value h => simpa using ⟨a, h⟩
  · rintro ⟨hlen, h⟩
    match vs, hlen with
    | [], _ => exact ⟨_, .default⟩
    | [v], _ =>
      obtain ⟨a, ha⟩ := h v (List.mem_singleton_self v)
      exact ⟨a, .value ha⟩

/-! ## Members -/

namespace Draft

/-- What has been read for a field. -/
def get (d : Draft) : (f : Field) → Option f.Content
  | .mode => d.mode
  | .extraStatuses => d.extraStatuses
  | .maxWait => d.maxWait
  | .preset => d.preset

/-- The draft with another content for a field. -/
def set (d : Draft) : (f : Field) → Option f.Content → Draft
  | .mode, new => { d with mode := new }
  | .extraStatuses, new => { d with extraStatuses := new }
  | .maxWait, new => { d with maxWait := new }
  | .preset, new => { d with preset := new }

/-- A draft is what it has for each field. -/
theorem ext_get {d e : Draft} (h : ∀ f, d.get f = e.get f) : d = e := by
  obtain ⟨mode, codes, maxWait, preset⟩ := d
  obtain ⟨mode', codes', maxWait', preset'⟩ := e
  obtain rfl : mode = mode' := h .mode
  obtain rfl : codes = codes' := h .extraStatuses
  obtain rfl : maxWait = maxWait' := h .maxWait
  obtain rfl : preset = preset' := h .preset
  rfl

/-- Contents for all fields make a draft. -/
theorem exists_get {P : (f : Field) → Option f.Content → Prop} (h : ∀ f, ∃ b, P f b) :
    ∃ d : Draft, ∀ f, P f (d.get f) := by
  obtain ⟨b, hb⟩ := Classical.skolem.1 h
  refine ⟨⟨b .mode, b .extraStatuses, b .maxWait, b .preset⟩, ?_⟩
  intro f
  cases f <;> exact hb _

theorem get_set_self (d : Draft) (f : Field) (new : Option f.Content) : (d.set f new).get f = new := by
  cases f <;> rfl

theorem get_set_other (d : Draft) {f g : Field} (hne : g ≠ f) (new : Option f.Content) : (d.set f new).get g = d.get g := by
  cases f <;> cases g <;> first | rfl | exact absurd rfl hne

theorem set_eq_iff {d e : Draft} {f : Field} {new : Option f.Content} :
    d.set f new = e ↔ e.get f = new ∧ ∀ g, g ≠ f → e.get g = d.get g := by
  constructor
  · rintro rfl
    exact ⟨get_set_self d f new, fun g hg => get_set_other d hg new⟩
  · rintro ⟨rfl, h⟩
    apply ext_get
    intro g
    by_cases hg : g = f
    · subst g
      exact get_set_self d f _
    · rw [get_set_other d hg, h g hg]

/-- A value of a field fills the field, if nothing does yet. -/
theorem add_name (d : Draft) (f : Field) (v : Json) :
    d.add (some f.name, v) = (fill (d.get f) (f.read? v)).map (d.set f) := by
  rw [Option.map_eq_bind]
  cases f
  all_goals
    simp only [add, Field.name, String.reduceEq, if_true, if_false]
    rfl

/-- A member that is no field's is passed over. -/
theorem add_other (d : Draft) {key : String} (h : ∀ f : Field, f.name ≠ key) (v : Json) : d.add (some key, v) = some d := by
  have hmode : key ≠ "mode" := (h .mode).symm
  have hcodes : key ≠ "retry_codes" := (h .extraStatuses).symm
  have hmaxWait : key ≠ "max_wait_ms" := (h .maxWait).symm
  have hpreset : key ≠ "parser" := (h .preset).symm
  simp [add, hmode, hcodes, hmaxWait, hpreset]

/-- What a field has when more values for it have come. -/
def fillAll (f : Field) (old : Option f.Content) (vs : List Json) : Option (Option f.Content) :=
  vs.foldlM (fun old v => fill old (f.read? v)) old

theorem fillAll_values_self (f : Field) (old : Option f.Content) (v : Json) :
    fillAll f old (f.values [(some f.name, v)]) = fill old (f.read? v) := by
  simp [fillAll, Field.values]

theorem fillAll_values_other {f : Field} {m : JsonText × Json} (h : m.1 ≠ some f.name) (old : Option f.Content) :
    fillAll f old (f.values [m]) = some old := by
  simp [fillAll, Field.values, h]

/-- One member more has a text for its name and fills the field whose value it is. -/
theorem add_eq_some_iff {d e : Draft} {m : JsonText × Json} :
    d.add m = some e ↔ m.1 ≠ none ∧ ∀ f, fillAll f (d.get f) (f.values [m]) = some (e.get f) := by
  obtain ⟨key, v⟩ := m
  cases key with
  | none => simp [add]
  | some key =>
    by_cases hkey : ∃ f : Field, f.name = key
    · obtain ⟨f, rfl⟩ := hkey
      have hne (g : Field) (hg : g ≠ f) : some f.name ≠ some g.name :=
        fun h => hg (Field.name_inj (Option.some.inj h).symm)
      simp only [add_name, Option.map_eq_some_iff, set_eq_iff]
      constructor
      · rintro ⟨new, hnew, rfl, hrest⟩
        refine ⟨Option.some_ne_none _, ?_⟩
        intro g
        by_cases hg : g = f
        · subst g
          rw [fillAll_values_self, hnew]
        · rw [fillAll_values_other (hne g hg), hrest g hg]
      · rintro ⟨-, h⟩
        refine ⟨e.get f, ?_, rfl, ?_⟩
        · rw [← fillAll_values_self]
          exact h f
        · intro g hg
          exact Option.some.inj ((h g).symm.trans (fillAll_values_other (hne g hg) _))
    · have hne (f : Field) : some key ≠ some f.name := fun h => hkey ⟨f, (Option.some.inj h).symm⟩
      rw [add_other d (not_exists.1 hkey), Option.some.injEq]
      constructor
      · rintro rfl
        exact ⟨Option.some_ne_none _, fun f => fillAll_values_other (hne f) _⟩
      · rintro ⟨-, h⟩
        exact ext_get fun f => Option.some.inj ((fillAll_values_other (hne f) _).symm.trans (h f))

/-- Members are read field by field: each field gets what its own values make of it. -/
theorem foldlM_add_eq_some_iff {members : List (JsonText × Json)} {d e : Draft} :
    members.foldlM add d = some e ↔
      (∀ m ∈ members, m.1 ≠ none) ∧ ∀ f, fillAll f (d.get f) (f.values members) = some (e.get f) := by
  induction members generalizing d with
  | nil =>
    simp only [List.foldlM_nil, Option.pure_def, Option.some.injEq, List.not_mem_nil, false_implies, implies_true, true_and]
    exact ⟨fun h f => h ▸ rfl, fun h => ext_get fun f => Option.some.inj (h f)⟩
  | cons m members ih =>
    have happend (f : Field) : fillAll f (d.get f) (f.values (m :: members)) =
        (fillAll f (d.get f) (f.values [m])).bind fun b => fillAll f b (f.values members) := by
      rw [Field.values_cons]
      exact List.foldlM_append
    simp only [List.foldlM_cons, Option.bind_eq_bind, Option.bind_eq_some_iff, add_eq_some_iff, ih, happend,
      List.forall_mem_cons]
    constructor
    · rintro ⟨d', ⟨hm, hd'⟩, hmembers, he⟩
      exact ⟨⟨hm, hmembers⟩, fun f => ⟨d'.get f, hd' f, he f⟩⟩
    · rintro ⟨⟨hm, hmembers⟩, h⟩
      obtain ⟨d', hd'⟩ := exists_get h
      exact ⟨d', ⟨hm, fun f => (hd' f).1⟩, hmembers, fun f => (hd' f).2⟩

/-- A field that has its content takes no other value. -/
theorem fillAll_some_eq_some_iff {f : Field} {a : f.Content} {vs : List Json} {b : Option f.Content} :
    fillAll f (some a) vs = some b ↔ vs = [] ∧ b = some a := by
  cases vs with
  | nil => simp [fillAll, eq_comm]
  | cons v vs => simp [fillAll, fill]

theorem fillAll_none_eq_some_iff {f : Field} {vs : List Json} {b : Option f.Content} :
    fillAll f none vs = some b ↔ vs = [] ∧ b = none ∨ ∃ v a, vs = [v] ∧ f.read? v = some a ∧ b = some a := by
  cases vs with
  | nil => simp [fillAll, eq_comm]
  | cons v vs =>
    have hcons : fillAll f none (v :: vs) = (f.read? v).bind fun a => fillAll f (some a) vs := by
      rw [fillAll, List.foldlM_cons]
      cases f.read? v <;> rfl
    simp only [hcons, Option.bind_eq_some_iff, fillAll_some_eq_some_iff, List.cons.injEq, reduceCtorEq, false_and, false_or]
    constructor
    · rintro ⟨a, ha, rfl, rfl⟩
      exact ⟨v, a, ⟨rfl, rfl⟩, ha, rfl⟩
    · rintro ⟨_, a, ⟨rfl, rfl⟩, ha, rfl⟩
      exact ⟨a, ha, rfl, rfl⟩

theorem get_empty (f : Field) : ({} : Draft).get f = none := by
  cases f <;> rfl

theorem get_settings (d : Draft) (f : Field) : d.settings.get f = (d.get f).getD (({} : Settings).get f) := by
  cases f <;> rfl

end Draft

theorem Field.given_iff {f : Field} {vs : List Json} (hvs : ∀ v ∈ vs, v.WellFormed) {a : f.Content} :
    f.Given vs a ↔ ∃ b, Draft.fillAll f none vs = some b ∧ b.getD (({} : Settings).get f) = a := by
  simp only [Draft.fillAll_none_eq_some_iff]
  constructor
  · intro h
    cases h with
    | default => exact ⟨none, .inl ⟨rfl, rfl⟩, rfl⟩
    | value h => exact ⟨some a, .inr ⟨_, a, rfl, (read?_eq_some_iff (hvs _ (List.mem_singleton_self _))).2 h, rfl⟩, rfl⟩
  · rintro ⟨b, ⟨rfl, rfl⟩ | ⟨v, a, rfl, ha, rfl⟩, rfl⟩
    · exact .default
    · exact .value ((read?_eq_some_iff (hvs v (List.mem_singleton_self v))).1 ha)

/-- The settings of members: all names are texts, and each field has what its values give it. -/
theorem ofMembers?_eq_some_iff {members : List (JsonText × Json)} (hmembers : ∀ m ∈ members, m.2.WellFormed)
    {s : Settings} : ofMembers? members = some s ↔
      (∀ m ∈ members, m.1 ≠ none) ∧ ∀ f : Field, f.Given (f.values members) (s.get f) := by
  have hvalues (f : Field) : ∀ v ∈ f.values members, v.WellFormed := by
    intro v hv
    obtain ⟨m, hm, rfl⟩ := List.mem_map.1 hv
    exact hmembers m (List.mem_filter.1 hm).1
  have hgiven (f : Field) (a : f.Content) : f.Given (f.values members) a ↔
      ∃ b, Draft.fillAll f none (f.values members) = some b ∧ b.getD (({} : Settings).get f) = a :=
    Field.given_iff (hvalues f)
  simp only [ofMembers?, Option.map_eq_some_iff, Draft.foldlM_add_eq_some_iff, Draft.get_empty, hgiven]
  constructor
  · rintro ⟨d, ⟨hnames, hd⟩, rfl⟩
    exact ⟨hnames, fun f => ⟨d.get f, hd f, (Draft.get_settings d f).symm⟩⟩
  · rintro ⟨hnames, h⟩
    obtain ⟨d, hd⟩ := Draft.exists_get h
    refine ⟨d, ⟨hnames, fun f => (hd f).1⟩, ?_⟩
    apply ext_get
    intro f
    rw [Draft.get_settings, (hd f).2]

/-! ## Order -/

/-- The member has the name of a field. -/
def isField (m : JsonText × Json) : Bool := (fieldNames.map some).contains m.1

/-- Two objects give the same fields the same values, in whatever order and with whatever stands between them. -/
def SameFields (members members' : List (JsonText × Json)) : Prop :=
  (members.filter isField).Perm (members'.filter isField)

theorem values_filter_isField (f : Field) (members : List (JsonText × Json)) :
    f.values (members.filter isField) = f.values members := by
  have hname (m : JsonText × Json) (hm : m.1 = some f.name) : isField m = true := by
    rw [isField, hm]
    cases f <;> decide
  rw [Field.values, List.filter_filter]
  congr 1
  apply List.filter_congr
  intro m _
  by_cases hm : m.1 = some f.name
  · simp [hm, hname m hm]
  · simp [hm]

theorem SameFields.values_perm {members members' : List (JsonText × Json)} (h : SameFields members members') (f : Field) :
    (f.values members).Perm (f.values members') := by
  rw [← values_filter_isField f members, ← values_filter_isField f members']
  exact (h.filter _).map _

theorem Field.Given.perm {f : Field} {vs ws : List Json} {a : f.Content} (h : f.Given vs a) (hperm : vs.Perm ws) :
    f.Given ws a := by
  cases h with
  | default =>
    rw [← hperm.nil_eq]
    exact .default
  | value h =>
    rw [← hperm.singleton_eq]
    exact .value h

/-- Objects with the same fields stand for the same settings. -/
theorem SameFields.ofMembers?_eq {members members' : List (JsonText × Json)} (h : SameFields members members')
    (hv : ∀ m ∈ members, m.2.WellFormed) (hv' : ∀ m ∈ members', m.2.WellFormed)
    (hnames : ∀ m ∈ members, m.1 ≠ none) (hnames' : ∀ m ∈ members', m.1 ≠ none) :
    ofMembers? members = ofMembers? members' := by
  apply Option.ext
  intro s
  rw [ofMembers?_eq_some_iff hv, ofMembers?_eq_some_iff hv']
  constructor
  · rintro ⟨-, hs⟩
    exact ⟨hnames', fun f => (hs f).perm (h.values_perm f)⟩
  · rintro ⟨-, hs⟩
    exact ⟨hnames, fun f => (hs f).perm (h.values_perm f).symm⟩

/-! ## Texts -/

theorem exists_ofMembers?_iff {members : List (JsonText × Json)} (hmembers : ∀ m ∈ members, m.2.WellFormed) :
    (∃ s, ofMembers? members = some s) ↔ (∀ m ∈ members, m.1 ≠ none) ∧
      ∀ f : Field, (f.values members).length ≤ 1 ∧ ∀ v ∈ f.values members, ∃ a, f.Stands v a := by
  simp only [ofMembers?_eq_some_iff hmembers, exists_and_left, ← Field.exists_given_iff]
  refine and_congr_right fun _ => ⟨fun ⟨s, hs⟩ f => ⟨s.get f, hs f⟩, exists_get⟩

theorem read?_of_isTextOf {text : String} {v : Json} (h : Json.IsTextOf text.toList v) : read? text = ofJson? v := by
  rw [read?, Json.read?_eq_some_iff.2 h, Option.bind_some]

/-- Settings are read field by field.

1. An object text is read exactly when each field has at most one value, and that value stands for something. What is read
   has the default in the fields without a value and what the value stands for in the others.
2. Objects that give the same fields the same values are read as the same settings, in whatever order the fields are and
   whatever stands between them.
3. An array of at most four values is read as any object that gives these to the fields in their order.

The names of all members have to be texts: a name in which an escape stands for half of a surrogate pair is not well-formed,
and no object with it is read. -/
theorem settings_read_field_by_field (text : String) :
    (∀ members, Json.IsTextOf text.toList (.object members) →
      ((∃ s, read? text = some s) ↔ (∀ m ∈ members, m.1 ≠ none) ∧
        ∀ f : Field, (f.values members).length ≤ 1 ∧ ∀ v ∈ f.values members, ∃ a, f.Stands v a) ∧
      (∀ s, read? text = some s ↔
        (∀ m ∈ members, m.1 ≠ none) ∧ ∀ f : Field, f.Given (f.values members) (s.get f)) ∧
      ∀ text' members', Json.IsTextOf text'.toList (.object members') → (∀ m ∈ members ++ members', m.1 ≠ none) →
        SameFields members members' → read? text = read? text') ∧
    ∀ items, Json.IsTextOf text.toList (.array items) → items.length ≤ 4 →
      ∀ text' members', Json.IsTextOf text'.toList (.object members') → (∀ m ∈ members', m.1 ≠ none) →
        SameFields ((fieldNames.map some).zip items) members' → read? text = read? text' := by
  constructor
  · intro members htext
    cases htext.wellFormed with
    | object hv =>
      simp only [read?_of_isTextOf htext]
      refine ⟨exists_ofMembers?_iff hv, fun s => ofMembers?_eq_some_iff hv, ?_⟩
      intro text' members' htext' hnames hsame
      obtain ⟨hnames, hnames'⟩ := List.forall_mem_append.1 hnames
      cases htext'.wellFormed with
      | object hv' =>
        rw [read?_of_isTextOf htext']
        exact hsame.ofMembers?_eq hv hv' hnames hnames'
  · intro items htext hlen text' members' htext' hnames' hsame
    cases htext.wellFormed with
    | array hv =>
      cases htext'.wellFormed with
      | object hv' =>
        rw [read?_of_isTextOf htext, read?_of_isTextOf htext']
        show (if items.length ≤ 4 then _ else none) = ofMembers? members'
        rw [if_pos hlen]
        refine hsame.ofMembers?_eq ?_ hv' ?_ hnames'
        · intro m hm
          exact hv m.2 (List.of_mem_zip hm).2
        · intro m hm
          obtain ⟨name, -, hname⟩ := List.mem_map.1 (List.of_mem_zip hm).1
          exact hname ▸ Option.some_ne_none name

/-- The largest numbers and a mode as an object: in the order of the fields, in another order with an unknown member between
them, and in an array. -/
theorem largest_numbers_read_in_any_order :
    read? "\x7b\"mode\":\x7b\"only\":null\x7d,\"retry_codes\":[65535],\"max_wait_ms\":18446744073709551615\x7d" =
        some ⟨.only, [65535], some .largest, .extended⟩ ∧
      read? "\x7b\"max_wait_ms\":18446744073709551615,\"x\":[\x7b\"mode\":1\x7d],\"mode\":\x7b\"only\":null\x7d,\"retry_codes\":[65535]\x7d" =
        some ⟨.only, [65535], some .largest, .extended⟩ ∧
      read? "[\x7b\"only\":null\x7d,[65535],18446744073709551615]" = some ⟨.only, [65535], some .largest, .extended⟩ := by
  have hmode : (Json.object [(some "only", .null)]).WellFormed := .object (by simp [Json.WellFormed.null])
  have hcodes : (Json.array [.ofNat 65535]).WellFormed := .array (by simp [Json.wellFormed_ofNat])
  have hmaxWait := Json.wellFormed_ofNat 18446744073709551615
  have hunknown : (Json.array [.object [(some "mode", .ofNat 1)]]).WellFormed :=
    .array (List.forall_mem_singleton.2 (.object (by simp [Json.wellFormed_ofNat])))
  have hordered : Json.IsTextOf
      "\x7b\"mode\":\x7b\"only\":null\x7d,\"retry_codes\":[65535],\"max_wait_ms\":18446744073709551615\x7d".toList
      (.object [(some "mode", .object [(some "only", .null)]), (some "retry_codes", .array [.ofNat 65535]),
        (some "max_wait_ms", .ofNat 18446744073709551615)]) :=
    Json.isTextOf_of_eq_write (.object (by simp [hmode, hcodes, hmaxWait])) (by decide +kernel)
  have hmixed : Json.IsTextOf
      "\x7b\"max_wait_ms\":18446744073709551615,\"x\":[\x7b\"mode\":1\x7d],\"mode\":\x7b\"only\":null\x7d,\"retry_codes\":[65535]\x7d".toList
      (.object [(some "max_wait_ms", .ofNat 18446744073709551615), (some "x", .array [.object [(some "mode", .ofNat 1)]]),
        (some "mode", .object [(some "only", .null)]), (some "retry_codes", .array [.ofNat 65535])]) :=
    Json.isTextOf_of_eq_write (.object (by simp [hmode, hcodes, hmaxWait, hunknown])) (by decide +kernel)
  have harray : Json.IsTextOf "[\x7b\"only\":null\x7d,[65535],18446744073709551615]".toList
      (.array [.object [(some "only", .null)], .array [.ofNat 65535], .ofNat 18446744073709551615]) :=
    Json.isTextOf_of_eq_write (.array (by simp [hmode, hcodes, hmaxWait])) (by decide +kernel)
  obtain ⟨-, hread, hsame⟩ := (settings_read_field_by_field _).1 _ hordered
  have hpart := hsame _ _ hmixed (by simp) (@List.perm_append_comm _ [_, _] [_])
  have hcut := (settings_read_field_by_field _).2 _ harray (by decide) _ _ hordered (by simp) (.refl _)
  suffices hsettings : read? _ = some ⟨.only, [65535], some .largest, .extended⟩ from
    ⟨hsettings, hpart.symm.trans hsettings, hcut.trans hsettings⟩
  refine (hread _).2 ⟨by simp, ?_⟩
  intro f
  cases f with
  | mode => exact .value (.inr rfl)
  | extraStatuses => exact .value rfl
  | maxWait => exact .value (.inr ⟨.largest, rfl, rfl⟩)
  | preset => exact .default

end Settings

end RetryPolicy
