import RetryPolicy.Proofs.SettingsFields

/-!
# Settings are read back from their text

`Settings.read?` undoes `Settings.write`. The text of the settings is read back as the value that was written
(`Json.read?_write`), and an object gives each field what its values give it (`ofMembers?_eq_some_iff`): what is written has
one value for each field, which stands for what the field holds.
-/

namespace RetryPolicy.Settings

/-- The value that stands for settings has a text. -/
theorem wellFormed_toJson (s : Settings) : s.toJson.WellFormed := by
  obtain ⟨mode, codes, maxWait, preset⟩ := s
  apply Json.WellFormed.object
  intro m hm
  simp only [List.mem_cons, List.not_mem_nil, or_false] at hm
  rcases hm with rfl | rfl | rfl | rfl
  · exact .string _
  · apply Json.WellFormed.array
    intro v hv
    obtain ⟨code, -, rfl⟩ := List.mem_map.1 hv
    exact Json.wellFormed_ofNat code.toNat
  · cases maxWait with
    | none => exact .null
    | some m => exact Json.wellFormed_ofNat m.count
  · exact .string _

/-- Settings are read back from the value that stands for them. -/
theorem ofJson?_toJson (s : Settings) : ofJson? s.toJson = some s := by
  cases s.wellFormed_toJson with
  | object hmembers =>
    refine (ofMembers?_eq_some_iff hmembers).2 ⟨by simp, ?_⟩
    obtain ⟨mode, codes, maxWait, preset⟩ := s
    intro f
    cases f with
    | mode => exact .value (.inl rfl)
    | extraStatuses => exact .value rfl
    | maxWait =>
      cases maxWait with
      | none => exact .value (.inl ⟨rfl, rfl⟩)
      | some m => exact .value (.inr ⟨m, rfl, rfl⟩)
    | preset => exact .value (.inl rfl)

/-- Settings are read back from their text, whatever they are. -/
theorem written_settings_read_back (s : Settings) : read? s.write = some s := by
  rw [read?, write, String.toList_ofList, Json.read?_write s.wellFormed_toJson]
  exact ofJson?_toJson s

end RetryPolicy.Settings
