import Db2Client.Proofs.Connection.Preparation
import Db2Client.Proofs.OrderedMap

/-!
# Registering variants

Variants are registered under their names in lower case, so two names that differ only in case are
one. Registering under a name again replaces the variant and keeps the place of the name.

Four questions are asked of a registry: which variant a driver has, whether it has one, whether a
configuration may name it, and which names there are. `extended_agrees` answers them for every list
of registrations after those that are always made, by the last registration of each name and the
first one.
-/

namespace Db2Client.Connection

open Text

namespace Registry

/-- The registry once more variants were registered, one after another. -/
def extended (vs : List Variant) : Registry := vs.foldl register builtin

/-- The last variant that was registered for a driver. -/
def latest (vs : List Variant) (driver : String) : Option Variant :=
  ((builtinVariants ++ vs).filter fun v => lower v.name == lower driver).getLast?

/-! ## Look-ups -/

theorem extended_eq_ofList (vs : List Variant) :
    extended vs = OrderedMap.ofList ((builtinVariants ++ vs).map fun v => (lower v.name, v)) := by
  rw [extended, builtin, ← List.foldl_append, OrderedMap.ofList, List.foldl_map]
  rfl

theorem get?_extended (vs : List Variant) (driver : String) :
    (extended vs).get? (lower driver) = latest vs driver := by
  rw [extended_eq_ofList, OrderedMap.get?_ofList, List.filter_map, List.getLast?_map,
    Option.map_map]
  show Option.map id _ = _
  rw [Option.map_id]
  rfl

/-- A driver is looked up in lower case. The empty one is its own lower case. -/
theorem driverKey_text (driver : String) : driverKey (.text driver) = .ok (lower driver) := by
  by_cases h : driver = ""
  · subst h
    rfl
  · simp [driverKey, truthy_text h]

theorem find_text (r : Registry) (driver : String) :
    (r.find (.text driver)).1 = .ok (r.get? (lower driver)) := by
  rw [find, driverKey_text]
  cases h : r.get? (lower driver) <;> simp only [h]

theorem supports_text (r : Registry) (driver : String) :
    r.supports (.text driver) = .ok (r.get? (lower driver)).isSome := by
  rw [supports, driverKey_text]
  rfl

/-! ## Configurations -/

theorem ofSettings_text (r : Registry) {m : Settings} {driver : String}
    (hdriver : m.value "driver" = .text driver) (h : driver ≠ "") :
    (Config.ofSettings r m).1 =
      match Config.read m driver, r.get? (lower driver) with
      | .error e, _ => .error e
      | .ok c, some _ => .ok c
      | .ok _, none => .error (.configuration (.unsupportedDriver driver r.names)) := by
  have hplain : (Value.text driver).plain = driver := rfl
  have hfind := find_text r driver
  simp only [Config.ofSettings, hdriver, truthy_text h, hplain, requireVariant, Bool.not_true,
    Bool.false_eq_true, if_false]
  cases Config.read m driver with
  | error e => rfl
  | ok c =>
    rcases hrun : r.find (.text driver) with ⟨found, log⟩
    rw [hrun] at hfind
    cases hget : r.get? (lower driver) with
    | none =>
      rw [hget] at hfind
      subst hfind
      rfl
    | some v =>
      rw [hget] at hfind
      subst hfind
      rfl

/-- Settings that give nothing but the driver. -/
def driverOnly (driver : String) : Settings := [("driver", .text driver)]

theorem ofSettings_driverOnly (r : Registry) {driver : String} (h : driver ≠ "") :
    (Config.ofSettings r (driverOnly driver)).1 =
      match r.get? (lower driver) with
      | some _ => .ok { driver }
      | none => .error (.configuration (.unsupportedDriver driver r.names)) := by
  have hvalue : (driverOnly driver).value "driver" = .text driver := rfl
  have hread : Config.read (driverOnly driver) driver = .ok { driver } := rfl
  rw [ofSettings_text r hvalue h, hread]
  cases r.get? (lower driver) <;> rfl

/-! ## Names -/

theorem names_extended (vs : List Variant) :
    (extended vs).names = ((builtinVariants ++ vs).map fun v => lower v.name).eraseDups := by
  rw [names, extended_eq_ofList, OrderedMap.keys_ofList, List.map_map]
  rfl

theorem nodup_names_extended (vs : List Variant) : (extended vs).names.Nodup := by
  rw [names, extended_eq_ofList]
  exact OrderedMap.nodup_keys_ofList _

/-- The variants that are always registered have different names, all in lower case. -/
theorem eraseDups_builtinNames :
    (builtinVariants.map fun v => lower v.name).eraseDups = builtinVariants.map Variant.name := by
  decide +kernel

theorem builtinNames_prefix (vs : List Variant) :
    builtinVariants.map Variant.name <+: (extended vs).names := by
  rw [names_extended, List.map_append, List.eraseDups_append, eraseDups_builtinNames]
  exact List.prefix_append _ _

/-! ## All answers together -/

/-- **What a registry knows.** For any further registrations, a driver's variant is the last one
that was registered under its name, ignoring case. The registry supports the driver exactly when
there is one, and a configuration may then name the driver, unless it is empty. Every registered
name is listed once, in lower case and in the order of the first registrations, so that the names
that are always registered come first. -/
theorem extended_agrees (vs : List Variant) (driver : String) :
    ((extended vs).find (.text driver)).1 = .ok (latest vs driver) ∧
    (extended vs).supports (.text driver) = .ok (latest vs driver).isSome ∧
    (driver ≠ "" →
      (((latest vs driver).isSome = true) ↔
        ∀ e, (Config.ofSettings (extended vs) (driverOnly driver)).1 ≠ .error (.configuration e)) ∧
      (((latest vs driver).isSome = true) ↔
        ∃ c, (Config.ofSettings (extended vs) (driverOnly driver)).1 = .ok c)) ∧
    (extended vs).names = ((builtinVariants ++ vs).map fun v => lower v.name).eraseDups ∧
    (extended vs).names.Nodup ∧
    builtinVariants.map Variant.name <+: (extended vs).names := by
  have hget : (extended vs).get? (lower driver) = latest vs driver := get?_extended vs driver
  refine ⟨?_, ?_, fun hdriver => ?_, names_extended vs, nodup_names_extended vs,
    builtinNames_prefix vs⟩
  · rw [find_text, hget]
  · rw [supports_text, hget]
  · rw [ofSettings_driverOnly (extended vs) hdriver, hget]
    cases latest vs driver <;> simp

/-- A variant that replaces another one under a name in capitals, found under a third spelling. -/
def replacement : Variant := ⟨"DB2_LUW_IBM", .odbc, .expressC, .finalTable, odbcFields, true⟩

theorem extended_agrees_replaced :
    "Db2_Luw_Ibm" ≠ "" ∧
    ((extended [replacement]).find (.text "Db2_Luw_Ibm")).1 = .ok (some replacement) ∧
    (extended [replacement]).supports (.text "Db2_Luw_Ibm") = .ok true ∧
    (∃ c, (Config.ofSettings (extended [replacement]) (driverOnly "Db2_Luw_Ibm")).1 = .ok c) ∧
    (extended [replacement]).names = builtinVariants.map Variant.name := by
  have hne : "Db2_Luw_Ibm" ≠ "" := by decide
  have hlatest : latest [replacement] "Db2_Luw_Ibm" = some replacement := by decide +kernel
  have hnames : ((builtinVariants ++ [replacement]).map fun v => lower v.name).eraseDups =
      builtinVariants.map Variant.name := by decide +kernel
  obtain ⟨hfind, hsupports, hsettings, hlisted, -, -⟩ :=
    extended_agrees [replacement] "Db2_Luw_Ibm"
  obtain ⟨-, haccepted⟩ := hsettings hne
  rw [hlatest] at hfind hsupports haccepted
  exact ⟨hne, hfind, hsupports, haccepted.1 rfl, hlisted.trans hnames⟩

end Registry

end Db2Client.Connection
