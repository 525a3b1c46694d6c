import Db2Client.Proofs.Connection.SettingsReading

/-!
# Reading a configuration again

What is read from settings is in normal form: the port is an integer or none, no keyword is given
twice, and the driver has a variant. The fields of a configuration in normal form are settings in
turn, and reading them gives the configuration back. So a second reading changes nothing, not even
the order of the keywords.

Reading asks for the twelve fields and for nothing else, and the order in which they are given does
not matter.

Main result: `ofSettings_settings`.
-/

namespace Db2Client.Connection

open Text

variable {r : Registry} {m m' : Settings} {c : Config} {log : Log}

/-! ## Settings that agree on the fields -/

/-- Every field has the same value in both settings. What else they hold is left open. -/
def Settings.SameFields (m' m : Settings) : Prop :=
  ∀ name ∈ fieldNames, m'.value? name = m.value? name

theorem value_congr (h : m'.SameFields m) {name : String} (hname : name ∈ fieldNames) :
    m'.value name = m.value name := by
  rw [Settings.value, Settings.value, h name hname]

theorem filled_congr (h : m'.SameFields m) : m'.filled = m.filled := by
  funext driver port keywords
  unfold Settings.filled
  rw [h "driver_name" (by decide), h "host" (by decide), h "database" (by decide),
    h "username" (by decide), h "password" (by decide), h "schema" (by decide),
    h "connection_id" (by decide), value_congr h (by decide : "date_format" ∈ fieldNames),
    value_congr h (by decide : "offset_compatibility_mode" ∈ fieldNames)]

theorem read_congr (h : m'.SameFields m) : Config.read m' = Config.read m := by
  funext driver
  rw [read_eq, read_eq, value_congr h (by decide : "port" ∈ fieldNames),
    value_congr h (by decide : "odbc_keywords" ∈ fieldNames), filled_congr h]

/-- Reading asks for the fields only. -/
theorem ofSettings_congr (r : Registry) (h : m'.SameFields m) :
    Config.ofSettings r m' = Config.ofSettings r m := by
  unfold Config.ofSettings
  rw [value_congr h (by decide : "driver" ∈ fieldNames), read_congr h]

/-! ## Keywords -/

/-- Keywords are what insertions leave, whichever way they are given. -/
theorem readKeywords_ok {v : Value} {keywords : Keywords} (h : readKeywords v = .ok keywords) :
    ∃ pairs, OrderedMap.ofList pairs = keywords := by
  unfold readKeywords at h
  split at h
  · cases h
    exact ⟨[], rfl⟩
  · split at h
    · cases h
      exact ⟨_, rfl⟩
    · split at h
      · cases h
      · rename_i items _
        cases hpairs : readPairs 0 items with
        | error e =>
          rw [hpairs] at h
          cases h
        | ok pairs =>
          rw [hpairs] at h
          cases h
          exact ⟨pairs, rfl⟩

theorem readKeywords_entries {keywords : Keywords}
    (h : OrderedMap.Distinct keywords.entries) :
    readKeywords (.mapping (keywords.entries.map fun e => (e.1.value, e.2))) = .ok keywords := by
  rw [readKeywords_mapping, List.map_map]
  show Except.ok (OrderedMap.ofList (keywords.entries.map id)) = _
  rw [List.map_id, OrderedMap.ofList_entries h]

/-! ## The normal form -/

/-- What reading makes of every configuration. -/
structure Config.Normal (r : Registry) (c : Config) : Prop where
  named : c.driver ≠ ""
  supported : (r.get? (lower c.driver)).isSome = true
  keywords : OrderedMap.Distinct c.keywords.entries

theorem normal_of_ofSettings (h : (Config.ofSettings r m).1 = .ok c) : c.Normal r := by
  obtain ⟨driver, hnames, hsupported, hread⟩ := ofSettings_ok_iff.1 h
  obtain ⟨port, keywords, -, hkeywords, rfl⟩ := read_ok_iff.1 hread
  obtain ⟨pairs, rfl⟩ := readKeywords_ok hkeywords
  exact ⟨hnames.2, hsupported, OrderedMap.distinct_ofList pairs⟩

/-- The fields of a configuration as settings. -/
def Config.settings (c : Config) : Settings :=
  fieldNames.filterMap fun name => (c.field name).toOption.map fun v => (name, v)

theorem value?_settings (c : Config) {name : String} (h : name ∈ fieldNames) :
    c.settings.value? name = (c.field name).toOption := by
  rcases mem_fieldNames.1 h with
    rfl | rfl | rfl | rfl | rfl | rfl | rfl | rfl | rfl | rfl | rfl | rfl <;> rfl

theorem readPort_portValue (c : Config) : readPort c.portValue = .ok c.port := by
  unfold Config.portValue
  cases c.port <;> rfl

theorem filled_settings (c : Config) : c.settings.filled c.driver c.port c.keywords = c := rfl

theorem Config.Normal.ofSettings (h : c.Normal r) : (Config.ofSettings r c.settings).1 = .ok c := by
  have hport : readPort (c.settings.value "port") = .ok c.port := readPort_portValue c
  have hkeywords : readKeywords (c.settings.value "odbc_keywords") = .ok c.keywords :=
    readKeywords_entries h.keywords
  have hread : Config.read c.settings c.driver = .ok c :=
    read_ok_iff.2 ⟨c.port, c.keywords, hport, hkeywords, filled_settings c⟩
  exact ofSettings_ok_iff.2 ⟨c.driver, ⟨rfl, h.named⟩, h.supported, hread⟩

theorem ofSettings_eq_of_ok (h : (Config.ofSettings r m).1 = .ok c) :
    Config.ofSettings r m = (.ok c, []) := by
  have hrun : Config.ofSettings r m = (.ok c, (Config.ofSettings r m).2) := Prod.ext h rfl
  rw [hrun, ofSettings_log_of_ok hrun]

/-- **A configuration is read back from its fields.** Whatever the settings that a configuration was
read from, its twelve fields are settings that give the same configuration again, with the keywords
in their order. So do all settings that agree with the first ones on the twelve fields, whatever
else they hold. -/
theorem ofSettings_settings (h : Config.ofSettings r m = (.ok c, log)) :
    Config.ofSettings r c.settings = (.ok c, log) ∧
    (∀ name ∈ fieldNames, ∃ v, c.field name = .ok v ∧ c.settings.value? name = some v) ∧
    ∀ m' : Settings, m'.SameFields m → Config.ofSettings r m' = (.ok c, log) := by
  refine ⟨?_, fun name hname => ?_, fun m' hagree => ?_⟩
  · have hok : (Config.ofSettings r m).1 = .ok c := by rw [h]
    rw [ofSettings_log_of_ok h]
    exact ofSettings_eq_of_ok (normal_of_ofSettings hok).ofSettings
  · obtain ⟨v, hv⟩ := field_ok c hname
    exact ⟨v, hv, by rw [value?_settings c hname, hv]; rfl⟩
  · rw [ofSettings_congr r hagree, h]

/-- A driver in capitals, a port with blanks and an underscore, a keyword that is given twice, and a
name that is no field. -/
def untidySettings : Settings := [
  ("charset", .text "utf8"), ("driver", .text "DB2_LUW_IBM"), ("port", .text " 50_000 "),
  ("odbc_keywords", .list [.list [.integer 1, .text "a"], .text "NO", .list [.flag true, .null]]),
  ("offset_compatibility_mode", .list [])]

def tidyConfig : Config where
  driver := "DB2_LUW_IBM"
  port := some 50000
  keywords := ⟨[(⟨.integer 1⟩, .null), (⟨.text "N"⟩, .text "O")]⟩

theorem ofSettings_settings_untidy :
    Config.ofSettings .builtin untidySettings = (.ok tidyConfig, []) ∧
      Config.ofSettings .builtin tidyConfig.settings = (.ok tidyConfig, []) ∧
      Config.ofSettings .builtin (untidySettings ++ [("charset", .null), ("timeout", .integer 5)]) =
        (.ok tidyConfig, []) := by
  have hsupported : (Registry.builtin.get? (lower "DB2_LUW_IBM")).isSome = true := by decide +kernel
  have hread : Config.read untidySettings "DB2_LUW_IBM" = .ok tidyConfig := rfl
  have hrun : Config.ofSettings .builtin untidySettings = (.ok tidyConfig, []) :=
    ofSettings_eq_of_ok (ofSettings_ok_iff.2 ⟨_, ⟨rfl, by decide⟩, hsupported, hread⟩)
  obtain ⟨hagain, -, hothers⟩ := ofSettings_settings hrun
  refine ⟨hrun, hagain, hothers _ fun name hname => ?_⟩
  rcases mem_fieldNames.1 hname with
    rfl | rfl | rfl | rfl | rfl | rfl | rfl | rfl | rfl | rfl | rfl | rfl <;> rfl

end Db2Client.Connection
