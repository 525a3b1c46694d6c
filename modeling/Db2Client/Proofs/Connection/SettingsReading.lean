import Db2Client.Proofs.Connection.Connecting
import Db2Client.Proofs.Connection.Registration

/-!
# How settings are refused

Settings are refused with a configuration error when they name no driver, when their port is no
integer, and when their driver has no variant. A port is refused in two more ways, which are no
configuration errors.

* An infinite number has no integer, and the error that says so is passed on as it is.
* The error for a port that is no integer shows the port. A list or a mapping cannot be shown when
  some integer in it is too long to be written, and then this is the error.

Main result: `ofSettings_refusals`.
-/

namespace Db2Client

open Number

/-! ## Values without an integer -/

theorem Number.readInteger_ne_infinite (s : String) : readInteger s ≠ .error .infinite := by
  unfold readInteger
  dsimp only
  split_ifs <;> nofun

namespace Value

/-- An infinite number of either kind. -/
def IsInfinite (v : Value) : Prop :=
  ∃ negative, v = .float (.infinity negative) ∨ v = .decimal (.infinity negative)

/-- A list or a mapping in which some integer has too many digits to be written. -/
def IsLongCollection (v : Value) : Prop :=
  ((∃ items, v = .list items) ∨ ∃ entries, v = .mapping entries) ∧ v.writable = false

theorem toInteger_eq_infinite_iff {v : Value} : v.toInteger = .error .infinite ↔ v.IsInfinite := by
  cases v with
  | float x => cases x <;> simp [toInteger, Binary64.truncate, IsInfinite]
  | decimal d => cases d <;> simp [toInteger, Decimal.truncate, IsInfinite]
  | text s => simp [toInteger, readInteger_ne_infinite, IsInfinite]
  | _ => simp [toInteger, IsInfinite]

theorem IsInfinite.isBlank {v : Value} (h : v.IsInfinite) : v.isBlank = false := by
  obtain ⟨negative, rfl | rfl⟩ := h <;> rfl

theorem IsLongCollection.isBlank {v : Value} (h : v.IsLongCollection) : v.isBlank = false := by
  obtain ⟨⟨items, rfl⟩ | ⟨entries, rfl⟩, -⟩ := h <;> rfl

theorem IsLongCollection.toInteger {v : Value} (h : v.IsLongCollection) :
    v.toInteger = .error .notNumeric := by
  obtain ⟨⟨items, rfl⟩ | ⟨entries, rfl⟩, -⟩ := h <;> rfl

/-- What has no integer can be written, unless it holds one that cannot. -/
theorem isLongCollection_iff {v : Value} {e : IntegerError} (h : v.toInteger = .error e) :
    v.IsLongCollection ↔ v.writable = false := by
  refine ⟨And.right, fun hlong => ⟨?_, hlong⟩⟩
  cases v with
  | integer n => cases h
  | list items => exact .inl ⟨items, rfl⟩
  | mapping entries => exact .inr ⟨entries, rfl⟩
  | _ => cases hlong

end Value

namespace Connection

open Text Value

/-! ## Ports -/

/-- What becomes of a port. -/
inductive PortReading (v : Value) : Except Failure (Option Int) → Prop
  | absent : v.isBlank = true → PortReading v (.ok none)
  | integer {n : Int} : v.isBlank = false → v.toInteger = .ok n → PortReading v (.ok (some n))
  | infinite : v.IsInfinite → PortReading v (.error (.number .infinite))
  | tooLong : v.IsLongCollection → PortReading v (.error (.number .tooLongToWrite))
  | noInteger {e : IntegerError} : v.isBlank = false → v.toInteger = .error e → e ≠ .infinite →
      v.writable = true → PortReading v (.error (.configuration (.invalidPort v.shown)))

variable {v : Value} {result : Except Failure (Option Int)}

theorem exists_portReading (v : Value) : ∃ result, PortReading v result := by
  cases hblank : v.isBlank with
  | true => exact ⟨_, .absent hblank⟩
  | false =>
    cases hinteger : v.toInteger with
    | ok n => exact ⟨_, .integer hblank hinteger⟩
    | error e =>
      by_cases hinfinite : e = .infinite
      · rw [hinfinite] at hinteger
        exact ⟨_, .infinite (toInteger_eq_infinite_iff.1 hinteger)⟩
      · cases hwritable : v.writable with
        | true => exact ⟨_, .noInteger hblank hinteger hinfinite hwritable⟩
        | false => exact ⟨_, .tooLong ((isLongCollection_iff hinteger).2 hwritable)⟩

theorem PortReading.eq_readPort (h : PortReading v result) : readPort v = result := by
  unfold readPort
  cases h with
  | absent hblank => rw [if_pos hblank]
  | integer hblank hinteger =>
    rw [hblank, hinteger]
    rfl
  | infinite hinfinite =>
    rw [hinfinite.isBlank, toInteger_eq_infinite_iff.2 hinfinite]
    rfl
  | tooLong hlong =>
    rw [hlong.isBlank, hlong.toInteger, hlong.2]
    rfl
  | @noInteger e hblank hinteger hne hwritable =>
    rw [hblank, hinteger, hwritable]
    -- Of the reasons for having no integer, infinity alone is told apart.
    cases e <;> first | rfl | exact absurd rfl hne

theorem readPort_iff : readPort v = result ↔ PortReading v result := by
  constructor
  · rintro rfl
    obtain ⟨result, h⟩ := exists_portReading v
    rwa [h.eq_readPort]
  · exact PortReading.eq_readPort

theorem portReading_infinite_iff :
    PortReading v (.error (.number .infinite)) ↔ v.IsInfinite := by
  constructor
  · intro h
    cases h with
    | infinite hinfinite => exact hinfinite
  · exact .infinite

theorem portReading_tooLong_iff :
    PortReading v (.error (.number .tooLongToWrite)) ↔ v.IsLongCollection := by
  constructor
  · intro h
    cases h with
    | tooLong hlong => exact hlong
  · exact .tooLong

theorem PortReading.error_cases {e : Failure} (h : PortReading v (.error e)) :
    e = .number .infinite ∨ e = .number .tooLongToWrite ∨ ∃ f, e = .configuration f := by
  cases h with
  | infinite => exact .inl rfl
  | tooLong => exact .inr (.inl rfl)
  | noInteger => exact .inr (.inr ⟨_, rfl⟩)

/-! ## Settings that are accepted -/

/-- The settings name a driver. -/
def Settings.Names (m : Settings) (driver : String) : Prop :=
  m.value "driver" = .text driver ∧ driver ≠ ""

/-- The configuration in the settings once the port and the keywords are read. -/
def Settings.filled (m : Settings) (driver : String) (port : Option Int) (keywords : Keywords) :
    Config where
  driver
  driverName := (m.value? "driver_name").getD (.text "")
  host := (m.value? "host").getD (.text "")
  port
  database := (m.value? "database").getD (.text "")
  username := (m.value? "username").getD (.text "")
  password := (m.value? "password").getD (.text "")
  schema := (m.value? "schema").getD (.text "")
  dateFormat := m.value "date_format"
  offsetCompatibility := (m.value "offset_compatibility_mode").truthy
  keywords
  connectionId := (m.value? "connection_id").getD (.text "")

variable {m : Settings} {driver : String} {c : Config}

theorem read_eq (m : Settings) (driver : String) :
    Config.read m driver = (readPort (m.value "port")).bind fun port =>
      ((readKeywords (m.value "odbc_keywords")).mapError .keywords).map (m.filled driver port) := by
  unfold Config.read
  cases readPort (m.value "port") with
  | error e => rfl
  | ok port => cases readKeywords (m.value "odbc_keywords") <;> rfl

theorem read_ok_iff : Config.read m driver = .ok c ↔
    ∃ port keywords, readPort (m.value "port") = .ok port ∧
      readKeywords (m.value "odbc_keywords") = .ok keywords ∧
      m.filled driver port keywords = c := by
  rw [read_eq]
  cases readPort (m.value "port") with
  | error e => simp [Except.bind]
  | ok port =>
    cases readKeywords (m.value "odbc_keywords") <;> simp [Except.bind, Except.map]

theorem ofSettings_unnamed (r : Registry) (h : (m.value "driver").truthy = false) :
    (Config.ofSettings r m).1 = .error (.configuration .missingDriver) := by
  simp [Config.ofSettings, h]

theorem ofSettings_not_text {r : Registry} (h : (m.value "driver").truthy = true)
    (htext : ∀ s, m.value "driver" ≠ .text s) : (Config.ofSettings r m).1 ≠ .ok c := by
  have hkey : Registry.driverKey (m.value "driver") = .error .notText := by
    unfold Registry.driverKey
    cases hdriver : m.value "driver" with
    | text s => exact absurd hdriver (htext s)
    | _ => simp [← hdriver, h]
  intro hok
  simp only [Config.ofSettings, h, Bool.not_true, Bool.false_eq_true, if_false, requireVariant,
    Registry.find, hkey] at hok
  cases hread : Config.read m (m.value "driver").plain with
  | error e => simp [hread] at hok
  | ok c' => simp [hread, Except.map] at hok

/-- Settings are accepted when they name a driver that has a variant and everything in them can be
read. -/
theorem ofSettings_ok_iff {r : Registry} : (Config.ofSettings r m).1 = .ok c ↔
    ∃ driver, m.Names driver ∧ (r.get? (lower driver)).isSome = true ∧
      Config.read m driver = .ok c := by
  constructor
  · intro hok
    cases htruthy : (m.value "driver").truthy with
    | false =>
      rw [ofSettings_unnamed r htruthy] at hok
      cases hok
    | true =>
      by_cases htext : ∀ s, m.value "driver" ≠ .text s
      · exact absurd hok (ofSettings_not_text htruthy htext)
      · push Not at htext
        obtain ⟨driver, hdriver⟩ := htext
        have hne : driver ≠ "" := by
          rw [hdriver] at htruthy
          exact bne_iff_ne.1 htruthy
        rw [Registry.ofSettings_text r hdriver hne] at hok
        refine ⟨driver, ⟨hdriver, hne⟩, ?_⟩
        cases hread : Config.read m driver with
        | error e => simp [hread] at hok
        | ok c' => cases hget : r.get? (lower driver) <;> simp_all
  · rintro ⟨driver, ⟨hdriver, hne⟩, hsupported, hread⟩
    obtain ⟨v, hget⟩ := Option.isSome_iff_exists.1 hsupported
    rw [Registry.ofSettings_text r hdriver hne, hread, hget]

/-! ## Settings that are refused -/

/-- Settings whose driver, if there is one, is text, and whose keywords, if there are any, are a
mapping. -/
structure Settings.Typed (m : Settings) : Prop where
  driver : m.value? "driver" = none ∨ ∃ driver, m.value? "driver" = some (.text driver)
  keywords : m.value? "odbc_keywords" = none ∨ m.value? "odbc_keywords" = some .null ∨
    ∃ entries, m.value? "odbc_keywords" = some (.mapping entries)

theorem readKeywords_mapping (entries : List (Value × Value)) :
    readKeywords (.mapping entries) =
      .ok (OrderedMap.ofList (entries.map fun e => (⟨e.1⟩, e.2))) := by
  cases entries <;> rfl

theorem Settings.Typed.keywords_ok (h : m.Typed) :
    ∃ keywords, readKeywords (m.value "odbc_keywords") = .ok keywords := by
  unfold Settings.value
  obtain hnone | hnull | ⟨entries, hentries⟩ := h.keywords
  · exact ⟨_, by rw [hnone]; rfl⟩
  · exact ⟨_, by rw [hnull]; rfl⟩
  · exact ⟨_, by rw [hentries]; exact readKeywords_mapping entries⟩

theorem Settings.Typed.names_or_missing (h : m.Typed) :
    (∃ driver, m.Names driver) ∨ (m.value "driver").truthy = false := by
  unfold Settings.Names Settings.value
  obtain hnone | ⟨driver, hdriver⟩ := h.driver
  · rw [hnone]
    exact .inr rfl
  · rw [hdriver]
    by_cases hempty : driver = ""
    · rw [hempty]
      exact .inr rfl
    · exact .inl ⟨driver, rfl, hempty⟩

/-- What becomes of settings that name a driver and give keywords: an unread port is reported first,
and then a driver without a variant. -/
theorem ofSettings_named (r : Registry) (hnames : m.Names driver) {keywords : Keywords}
    (hkeywords : readKeywords (m.value "odbc_keywords") = .ok keywords) :
    (Config.ofSettings r m).1 = (readPort (m.value "port")).bind fun port =>
      if (r.get? (lower driver)).isSome then .ok (m.filled driver port keywords)
      else .error (.configuration (.unsupportedDriver driver r.names)) := by
  rw [Registry.ofSettings_text r hnames.1 hnames.2, read_eq, hkeywords]
  cases readPort (m.value "port") with
  | error e => rfl
  | ok port => cases r.get? (lower driver) <;> rfl

theorem ofSettings_error_cases {r : Registry} (h : m.Typed) {e : Failure}
    (herror : (Config.ofSettings r m).1 = .error e) :
    (∃ driver, m.Names driver) ∧ PortReading (m.value "port") (.error e) ∨
      ∃ f, e = .configuration f := by
  obtain ⟨keywords, hkeywords⟩ := h.keywords_ok
  obtain ⟨driver, hnames⟩ | hmissing := h.names_or_missing
  · rw [ofSettings_named r hnames hkeywords] at herror
    cases hport : readPort (m.value "port") with
    | error e' =>
      rw [hport] at herror
      cases herror
      exact .inl ⟨⟨driver, hnames⟩, readPort_iff.1 hport⟩
    | ok port =>
      rw [hport, Except.bind] at herror
      split_ifs at herror
      cases herror
      exact .inr ⟨_, rfl⟩
  · rw [ofSettings_unnamed r hmissing] at herror
    cases herror
    exact .inr ⟨_, rfl⟩

theorem ofSettings_number_iff {r : Registry} (h : m.Typed) {e : IntegerError} :
    (Config.ofSettings r m).1 = .error (.number e) ↔
      (∃ driver, m.Names driver) ∧ PortReading (m.value "port") (.error (.number e)) := by
  constructor
  · intro herror
    obtain hport | ⟨f, hf⟩ := ofSettings_error_cases h herror
    · exact hport
    · cases hf
  · rintro ⟨⟨driver, hnames⟩, hport⟩
    obtain ⟨keywords, hkeywords⟩ := h.keywords_ok
    rw [ofSettings_named r hnames hkeywords, hport.eq_readPort]
    rfl

/-- **How settings are refused.** Settings whose driver is text and whose keywords are a mapping
give a configuration exactly when they name a driver that has a variant and have a port that can be
read, and its port is what theirs is read as. All other settings are refused with a configuration
error, with two exceptions: where a driver is named, an infinite port gives the error of its
conversion, and a port that is a list or a mapping with an integer too long to be written gives the
error of writing it. -/
theorem ofSettings_refusals (r : Registry) (h : m.Typed) :
    (∀ c, (Config.ofSettings r m).1 = .ok c → PortReading (m.value "port") (.ok c.port)) ∧
    ((∃ c, (Config.ofSettings r m).1 = .ok c) ↔
      (∃ driver, m.Names driver ∧ (r.get? (lower driver)).isSome = true) ∧
        ∃ port, PortReading (m.value "port") (.ok port)) ∧
    ((Config.ofSettings r m).1 = .error (.number .infinite) ↔
      (∃ driver, m.Names driver) ∧ (m.value "port").IsInfinite) ∧
    ((Config.ofSettings r m).1 = .error (.number .tooLongToWrite) ↔
      (∃ driver, m.Names driver) ∧ (m.value "port").IsLongCollection) ∧
    ∀ e, (Config.ofSettings r m).1 = .error e →
      e = .number .infinite ∨ e = .number .tooLongToWrite ∨ ∃ f, e = .configuration f := by
  refine ⟨fun c hok => ?_, ?_, ?_, ?_, fun e herror => ?_⟩
  · obtain ⟨driver, -, -, hread⟩ := ofSettings_ok_iff.1 hok
    obtain ⟨port, keywords, hport, -, rfl⟩ := read_ok_iff.1 hread
    exact readPort_iff.1 hport
  · constructor
    · rintro ⟨c, hok⟩
      obtain ⟨driver, hnames, hsupported, hread⟩ := ofSettings_ok_iff.1 hok
      obtain ⟨port, keywords, hport, -, -⟩ := read_ok_iff.1 hread
      exact ⟨⟨driver, hnames, hsupported⟩, port, readPort_iff.1 hport⟩
    · rintro ⟨⟨driver, hnames, hsupported⟩, port, hport⟩
      -- Keywords of this shape are always read, so the port alone decides.
      obtain ⟨keywords, hkeywords⟩ := h.keywords_ok
      have hread : Config.read m driver = .ok (m.filled driver port keywords) :=
        read_ok_iff.2 ⟨port, keywords, hport.eq_readPort, hkeywords, rfl⟩
      exact ⟨_, ofSettings_ok_iff.2 ⟨driver, hnames, hsupported, hread⟩⟩
  · rw [ofSettings_number_iff h, portReading_infinite_iff]
  · rw [ofSettings_number_iff h, portReading_tooLong_iff]
  · obtain ⟨-, hport⟩ | hconfiguration := ofSettings_error_cases h herror
    · exact hport.error_cases
    · exact .inr (.inr hconfiguration)

/-- Settings for a driver with a port of any kind and one keyword. -/
def withPort (port : Value) : Settings :=
  [("driver", .text "db2_luw_ibm"), ("port", port),
    ("odbc_keywords", .mapping [(.text "NAM", .integer 1)])]

theorem typed_withPort (port : Value) : (withPort port).Typed :=
  ⟨.inr ⟨_, rfl⟩, .inr (.inr ⟨_, rfl⟩)⟩

/-- A port with too many digits in a list. -/
theorem ofSettings_refusals_long_collection :
    (withPort (.list [.integer (Nat.pow 10 digitLimit : Nat)])).Typed ∧
      (Config.ofSettings .builtin
        (withPort (.list [.integer (Nat.pow 10 digitLimit : Nat)]))).1 =
          .error (.number .tooLongToWrite) := by
  have htyped := typed_withPort (.list [.integer (Nat.pow 10 digitLimit : Nat)])
  refine ⟨htyped, ?_⟩
  obtain ⟨-, -, -, htooLong, -⟩ := ofSettings_refusals .builtin htyped
  have hwritable : (Value.integer (Nat.pow 10 digitLimit : Nat)).writable = false :=
    eq_false_of_ne_true (mt (writable_integer _).1 Schema.not_isWritable_longNumber)
  refine htooLong.2 ⟨⟨"db2_luw_ibm", rfl, by decide⟩, .inl ⟨_, rfl⟩, ?_⟩
  show ((Value.integer (Nat.pow 10 digitLimit : Nat)).writable && true) = false
  rw [hwritable]
  rfl

/-- An infinite port is refused with an error that is no configuration error. -/
theorem infinite_port_passed_on :
    (withPort (.float (.infinity false))).Typed ∧
      (Config.ofSettings .builtin (withPort (.float (.infinity false)))).1 =
        .error (.number .infinite) ∧
      ∀ e, (Config.ofSettings .builtin (withPort (.float (.infinity false)))).1 ≠
        .error (.configuration e) := by
  have hrun : (Config.ofSettings .builtin (withPort (.float (.infinity false)))).1 =
    .error (.number .infinite) := rfl
  refine ⟨typed_withPort _, hrun, fun e he => ?_⟩
  rw [hrun] at he
  cases he

end Connection

end Db2Client
