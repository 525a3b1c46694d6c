import Db2Client.Connection.Connector
import Db2Client.Proofs.Text.Pieces

/-!
# What is settled before a connection is opened

Before anything is handed to a driver the credentials are filled in, the variant is looked up, the
fields that the variant needs are checked, and the connection string is written.

* `resolved_eq`: a credential is the configuration's own, or else the stored one.
* `missing_eq_filter`: the missing fields are those that are null or empty, in the variant's order.
* `variant_builtin`: the variants that are always registered are found under their names in any
  case.
* `prepared_cases`: the three ways in which the preparation of a configuration ends.
-/

namespace Db2Client.Connection

open Number Text

/-! ## Credentials -/

theorem truthy_text {s : String} (h : s ≠ "") : (Value.text s).truthy = true := bne_iff_ne.2 h

/-- A stored credential, empty when it is absent. When one of the two cannot be read both are
empty. -/
def Keyring.stored (k : Keyring) (id : String) (field : CredentialField) : String :=
  match k.get (secretName id .username), k.get (secretName id .password) with
  | .ok username, .ok password =>
    match field with
    | .username => username.getD ""
    | .password => password.getD ""
  | _, _ => ""

theorem credentials_eq (k : Keyring) (id : String) :
    (k.credentials id).1 = (k.stored id .username, k.stored id .password) := by
  unfold Keyring.credentials Keyring.stored
  cases k.get (secretName id .username) with
  | error e => rfl
  | ok username => cases k.get (secretName id .password) <;> rfl

/-- The credential that a configuration goes by: its own when it has one, and otherwise the stored
one when it names a connection. -/
def Config.credential (c : Config) (k : Keyring) (own : Value) (field : CredentialField) : Value :=
  if own.truthy then own
  else if c.connectionId.truthy then .text (k.stored c.connectionId.plain field)
  else own

/-- The configuration with the credentials that it goes by. -/
def Config.withCredentials (c : Config) (k : Keyring) : Config :=
  { c with
    username := c.credential k c.username .username
    password := c.credential k c.password .password }

theorem resolved_eq (c : Config) (k : Keyring) : (c.resolved k).1 = c.withCredentials k := by
  have hstored := credentials_eq k c.connectionId.plain
  unfold Config.resolved Config.withCredentials Config.credential Config.asksKeyring
  cases c.connectionId.truthy with
  | false => simp
  | true =>
    cases hu : c.username.truthy <;> cases hp : c.password.truthy <;>
      simp [Value.orElse, hu, hp, hstored]

/-! ## Fields -/

/-- The field is null or empty. -/
def Config.blank (c : Config) (name : String) : Bool :=
  match c.field name with
  | .ok v => v.isBlank
  | .error _ => false

theorem mem_fieldNames {name : String} : name ∈ fieldNames ↔
    name = "driver" ∨ name = "driver_name" ∨ name = "host" ∨ name = "port" ∨ name = "database" ∨
      name = "username" ∨ name = "password" ∨ name = "schema" ∨ name = "date_format" ∨
      name = "offset_compatibility_mode" ∨ name = "odbc_keywords" ∨ name = "connection_id" := by
  simp only [fieldNames, List.mem_cons, List.not_mem_nil, or_false]

theorem field_ok (c : Config) {name : String} (h : name ∈ fieldNames) :
    ∃ v, c.field name = .ok v := by
  rcases mem_fieldNames.1 h with
    rfl | rfl | rfl | rfl | rfl | rfl | rfl | rfl | rfl | rfl | rfl | rfl <;> exact ⟨_, rfl⟩

theorem lacks_eq (c : Config) {name : String} (h : name ∈ fieldNames) :
    c.lacks name = .ok (c.blank name) := by
  have hfields : ∀ n ∈ fieldNames, n ≠ unheldName ∧ n ∉ answeredNames := by decide
  obtain ⟨hheld, hanswered⟩ := hfields name h
  obtain ⟨v, hv⟩ := field_ok c h
  rw [Config.lacks, if_neg hheld, if_neg hanswered, Config.blank, hv]
  rfl

theorem missing_eq_filter (c : Config) {names : List String}
    (h : ∀ name ∈ names, name ∈ fieldNames) : c.missing names = .ok (names.filter c.blank) := by
  induction names with
  | nil => rfl
  | cons name rest ih =>
    obtain ⟨hname, hrest⟩ := List.forall_mem_cons.1 h
    rw [Config.missing, lacks_eq c hname, ih hrest, List.filter_cons]
    cases c.blank name <;> rfl

/-! ## Variants -/

theorem required_subset_fieldNames :
    ∀ v ∈ builtinVariants, ∀ name ∈ v.required, name ∈ fieldNames := by decide

theorem find_builtin : ∀ v ∈ builtinVariants, Registry.builtin.get? v.name = some v := by
  decide +kernel

theorem name_ne_empty : ∀ v ∈ builtinVariants, v.name ≠ "" := by decide

theorem variant_builtin {c : Config} {v : Variant} (hv : v ∈ builtinVariants)
    (hdriver : lower c.driver = v.name) : c.variant .builtin = (.ok v, []) := by
  have hne : c.driver ≠ "" := by
    intro hempty
    rw [hempty] at hdriver
    exact name_ne_empty v hv hdriver.symm
  have hkey : Registry.driverKey (.text c.driver) = .ok v.name := by
    simp [Registry.driverKey, truthy_text hne, hdriver]
  simp only [Config.variant, requireVariant, Registry.find, hkey, find_builtin v hv]

/-! ## The preparation as a whole -/

/-- The variant of a configuration and the connection string that is written for it. -/
def Config.prepared (c : Config) (r : Registry) : Except Failure (Variant × String) :=
  (c.variant r).1.bind fun v =>
    (c.validate v).bind fun _ => (v.style.connectionString c).map fun text => (v, text)

/-- The fields that the variant needs and the configuration leaves empty. -/
def Config.missingFor (c : Config) (v : Variant) : List String := v.required.filter c.blank

/-- No integer in the connection string has too many digits. -/
def Config.Writable (c : Config) (v : Variant) : Prop := (v.style.parts c).all Value.writable = true

theorem connectionString_of_writable {c : Config} {v : Variant} (h : c.Writable v) :
    v.style.connectionString c = .ok (v.style.text c) := if_pos h

theorem connectionString_of_not_writable {c : Config} {v : Variant} (h : ¬ c.Writable v) :
    v.style.connectionString c = .error (.number .tooLongToWrite) := if_neg h

theorem validate_eq (c : Config) {v : Variant} (hv : v ∈ builtinVariants) :
    c.validate v =
      if c.missingFor v = [] then .ok ()
      else .error (.configuration (.missingFields c.driver (c.missingFor v))) := by
  rw [Config.validate, missing_eq_filter c (required_subset_fieldNames v hv)]
  show (if (c.missingFor v).isEmpty then Except.ok ()
    else Except.error (Failure.configuration (.missingFields c.driver (c.missingFor v)))) = _
  simp only [List.isEmpty_iff]

/-- The connection string of a configuration in each style, word by word. Keywords of the native
driver have their values in braces, and a direct connection has a port. -/
inductive Config.Connects (c : Config) : Style → String → Prop
  | catalogued : Connects c .catalogued ("ibm:" ++ c.database.plain)
  | direct {port : Int} : c.port = some port →
      Connects c .direct ("ibm:DRIVER=\x7b" ++ c.driverName.plain ++ "\x7d;DATABASE=\x7b" ++
        c.database.plain ++ "\x7d;HOSTNAME=\x7b" ++ c.host.plain ++ "\x7d;PORT=\x7b" ++
        toString port ++ "\x7d;PROTOCOL=TCPIP;")
  | odbc : Connects c .odbc (";".intercalate (["odbc:DRIVER=" ++ c.driverName.plain,
      "System=" ++ c.host.plain, "Database=" ++ c.database.plain,
      "UserID=" ++ c.username.plain, "Password=" ++ c.password.plain] ++
      c.keywords.entries.map fun e => e.1.value.plain ++ "=" ++ e.2.plain))

theorem connects_direct {c : Config} {port : Int} (hport : c.port = some port) :
    c.Connects .direct (directString c) := by
  have hvalue : c.portValue.plain = toString port := by
    rw [Config.portValue, hport]
    exact integerText_eq_toString port
  have htext : directString c = "ibm:DRIVER=\x7b" ++ c.driverName.plain ++ "\x7d;DATABASE=\x7b" ++
      c.database.plain ++ "\x7d;HOSTNAME=\x7b" ++ c.host.plain ++ "\x7d;PORT=\x7b" ++
      toString port ++ "\x7d;PROTOCOL=TCPIP;" := by
    simp [directString, braced, nativeScheme, hvalue, ← String.toList_inj]
  rw [htext]
  exact .direct hport

theorem connects_odbc (c : Config) : c.Connects .odbc (odbcString c) := by
  have htext : odbcScheme ++ "DRIVER=" = "odbc:DRIVER=" := by simp [odbcScheme]
  rw [odbcString, htext, join_eq_intercalate]
  exact .odbc

theorem port_mem_required :
    ∀ v ∈ builtinVariants, v.style = .direct → "port" ∈ v.required := by decide

theorem port_of_complete {c : Config} {v : Variant} (hv : v ∈ builtinVariants)
    (hstyle : v.style = .direct) (hmissing : c.missingFor v = []) : ∃ n, c.port = some n := by
  have hblank : c.blank "port" ≠ true :=
    List.filter_eq_nil_iff.1 hmissing "port" (port_mem_required v hv hstyle)
  cases hport : c.port with
  | some n => exact ⟨n, rfl⟩
  | none =>
    refine absurd ?_ hblank
    show c.portValue.isBlank = true
    rw [Config.portValue, hport]
    rfl

/-- A configuration that nothing is missing from is connected by its string, word by word. -/
theorem connects_of_complete {c : Config} {v : Variant} (hv : v ∈ builtinVariants)
    (hmissing : c.missingFor v = []) : c.Connects v.style (v.style.text c) := by
  cases hstyle : v.style with
  | odbc => exact connects_odbc c
  | catalogued => exact .catalogued
  | direct =>
    obtain ⟨n, hn⟩ := port_of_complete hv hstyle hmissing
    exact connects_direct hn

/-- **The preparation.** A missing field is reported first, and then a number that is too long. -/
theorem prepared_cases {c : Config} {v : Variant} (hv : v ∈ builtinVariants)
    (hdriver : lower c.driver = v.name) :
    (c.missingFor v ≠ [] →
      c.prepared .builtin =
        .error (.configuration (.missingFields c.driver (c.missingFor v)))) ∧
    (c.missingFor v = [] → ¬ c.Writable v →
      c.prepared .builtin = .error (.number .tooLongToWrite)) ∧
    (c.missingFor v = [] → c.Writable v →
      c.prepared .builtin = .ok (v, v.style.text c)) := by
  rw [Config.prepared, variant_builtin hv hdriver, Except.bind, validate_eq c hv]
  refine ⟨fun hmissing => ?_, fun hmissing hlong => ?_, fun hmissing hwritable => ?_⟩
  · rw [if_neg hmissing]
    rfl
  · rw [if_pos hmissing, connectionString_of_not_writable hlong]
    rfl
  · rw [if_pos hmissing, connectionString_of_writable hwritable]
    rfl

end Db2Client.Connection
