import Db2Client.Proofs.Connection.Preparation
import Db2Client.Proofs.Schema.ReplyNumber
import Db2Client.Proofs.Session.CurrentSchema

/-!
# The phases of connecting

Connecting prepares the configuration, hands its connection string over, and then starts a session
in the configured schema. Each phase begins only when the one before it has succeeded:

* a configuration that cannot be prepared is never handed over,
* nothing is sent before the connection is open, and
* once it is open at most one statement is sent, the one that asks for the schema.

`connectConfig_runOn` gives a run of the three phases as an equation, and everything else about
connecting is read off it. `connect_phases` says what is handed over and what is sent, for every
configuration of a registered driver.
-/

namespace Db2Client.Connection

open Diagnosis Schema Text

variable {σ : Type}

/-! ## Opening -/

/-- The string that is handed over to open a connection, if there is somebody to take it. -/
def Connector.handed (k : Connector) (text : String) (odbc : Bool) : List Opened :=
  match k.opener with
  | some _ => [⟨text, none⟩]
  | none => if odbc then [⟨withoutScheme text, some k.timeout⟩] else []

/-- What comes of opening. -/
def Connector.reply (k : Connector) (text : String) (odbc : Bool) : Except Failure Unit :=
  match k.opener with
  | some opener => opener text
  | none =>
    if odbc then k.manager (withoutScheme text) k.timeout
    else .error (.configuration .openerNeeded)

theorem openString_runOn (k : Connector) (text : String) (odbc : Bool) (a : Attempt σ) :
    (k.openString text odbc).runOn a =
      (k.reply text odbc, { a with opened := a.opened ++ k.handed text odbc }) := by
  unfold Connector.openString Connector.reply Connector.handed
  cases k.opener with
  | some opener => rfl
  | none =>
    cases odbc with
    | true => rfl
    | false =>
      simp only [Bool.false_eq_true, if_false, Action.runOn_ofExcept, List.append_nil]

theorem openLogged_runOn (k : Connector) (text : String) (odbc : Bool) (a : Attempt σ) :
    (k.openLogged text odbc).runOn a =
      (k.reply text odbc, { a with
        opened := a.opened ++ k.handed text odbc
        log := a.log ++ match k.reply text odbc with
          | .ok _ => []
          | .error e => openFailureLog e }) := by
  rw [Connector.openLogged, Action.runOn_of, openString_runOn]
  cases k.reply text odbc with
  | ok x => simp only [List.append_nil]
  | error e => rfl

/-! ## Starting the session -/

/-- Starts the session of a configuration, in its schema. -/
def enter (db : Database σ) (v : Variant) (c : Config) : Action (Attempt σ) (Session σ) := do
  let a ← Action.of fun a => (.ok a, a)
  let s ← Action.ofExcept (Session.start v c a.link)
  applySchema db s

/-- The session of a configuration in its own schema. -/
def sessionOf (v : Variant) (c : Config) (schema : String) (link : Link σ) : Session σ where
  config := c
  variant := v
  defaultSchema := schema
  currentSchema := schema
  link := link

/-- The line that a change of the schema leaves in the log. -/
def schemaLine (schema : String) : LogLine := ⟨.info, "Current schema set to " ++ schema⟩

/-- Without a schema nothing is sent. -/
theorem enter_blank (db : Database σ) (v : Variant) {c : Config} (hschema : c.schema.isBlank = true)
    (a : Attempt σ) : (enter db v c).runOn a = (.ok (sessionOf v c "" a.link), a) := by
  obtain ⟨driver, driverName, host, port, database, username, password, schema, dateFormat, offset,
    keywords, connectionId⟩ := c
  cases schema with
  | null => rfl
  | text name =>
    obtain rfl : name = "" := eq_of_beq hschema
    rfl
  | _ => cases hschema

/-- With a schema its statement is sent once, and the session starts when the database accepts
it. -/
theorem enter_text (db : Database σ) (v : Variant) {c : Config} {name : String}
    (hschema : c.schema = .text name) (hname : name ≠ "") (a : Attempt σ) :
    (enter db v c).runOn a =
      match (db.answer a.link.memory schemaStatement (some [.text (upper name)])).1 with
      | .ok _ =>
        let link := a.link.afterSending db schemaStatement (some [.text (upper name)])
        (.ok { sessionOf v c (upper name) link with log := [schemaLine (upper name)] },
          { a with link, log := a.log ++ [schemaLine (upper name)] })
      | .error text =>
        (.error (.database text), { a with
          link := a.link.afterSending db schemaStatement (some [.text (upper name)]) }) := by
  have hstart : Session.start v c a.link = .ok (sessionOf v c (upper name) a.link) := by
    rw [Session.start, hschema, Session.schemaName_text]
    rfl
  have happly : applySchema db (sessionOf v c (upper name) a.link) =
      onSession (sessionOf v c (upper name) a.link) (Session.setSchema db name) := by
    simp only [applySchema, sessionOf, hschema, if_neg hname]
  rw [enter, Action.runOn_bind, Action.runOn_of]
  dsimp only
  rw [hstart, Action.runOn_bind, Action.runOn_ofExcept]
  dsimp only
  rw [happly, onSession, Action.runOn_of, Session.setSchema_runOn]
  dsimp only [sessionOf]
  cases (db.answer a.link.memory schemaStatement (some [.text (upper name)])).1 with
  | ok reply => rfl
  | error text => simp only [Except.map, List.append_nil]

theorem enter_not_text (db : Database σ) (v : Variant) {c : Config}
    (hschema : ∀ name, c.schema ≠ .text name) (a : Attempt σ) :
    ((enter db v c).runOn a).2 = a := by
  rw [enter, Action.runOn_bind, Action.runOn_of]
  dsimp only
  rw [Action.runOn_bind, Action.runOn_ofExcept]
  cases hstart : Session.start v c a.link with
  | error e => rfl
  | ok s =>
    obtain ⟨schema, -, rfl⟩ := map_eq_ok hstart
    dsimp only [applySchema]
    split
    · rename_i name hname
      exact absurd hname (hschema name)
    · rfl

/-- Whatever becomes of the session, nothing more is handed over. -/
theorem enter_keeps (db : Database σ) (v : Variant) (c : Config) :
    (enter db v c).Keeps Attempt.opened := by
  have hnow : (Action.of fun a : Attempt σ => (.ok a, a)).Keeps Attempt.opened := fun _ => rfl
  refine .bind hnow fun a => .bind (.ofExcept _) fun s => ?_
  unfold applySchema
  split
  · split
    · exact .pure s
    · exact fun _ => rfl
  · exact .pure s

/-! ## The phases -/

/-- The line that tells what is connected to, without its passwords. -/
def connectingLine (v : Variant) (text : String) : LogLine :=
  ⟨.info, "Connecting to DB2 (" ++ v.name ++ "): " ++ maskPassword text⟩

/-- What the preparation of a configuration leaves in the log. -/
def preparationLog (r : Registry) (ring : Keyring) (c : Config) : Log :=
  (c.resolved ring).2 ++ ((c.withCredentials ring).variant r).2

/-- The attempt once the connection string of a prepared configuration was handed over. -/
def handedOver (k : Connector) (r : Registry) (ring : Keyring) (c : Config) (v : Variant)
    (text : String) (a : Attempt σ) : Attempt σ :=
  { a with
    opened := a.opened ++ k.handed text v.odbc
    log := a.log ++ preparationLog r ring c ++ [connectingLine v text] }

theorem logged_runOn {α : Type} (x : Except Failure α × Log) (a : Attempt σ) :
    (Attempt.logged x).runOn a = (x.1, { a with log := a.log ++ x.2 }) := by
  rw [Attempt.logged, Action.runOn_bind, Attempt.tell, Action.runOn_of]
  rfl

/-- **A run of the phases.** -/
theorem connectConfig_runOn (k : Connector) (r : Registry) (ring : Keyring) (db : Database σ)
    (c : Config) (a : Attempt σ) :
    (k.connectConfig r ring db c).runOn a =
      match (c.withCredentials ring).prepared r with
      | .error e => (.error e, { a with log := a.log ++ preparationLog r ring c })
      | .ok (v, text) =>
        match k.reply text v.odbc with
        | .error e =>
          (.error e, { handedOver k r ring c v text a with
            log := (handedOver k r ring c v text a).log ++ openFailureLog e })
        | .ok _ =>
          (enter db v (c.withCredentials ring)).runOn (handedOver k r ring c v text a) := by
  have hresolved : c.resolved ring = (c.withCredentials ring, (c.resolved ring).2) :=
    Prod.ext (resolved_eq c ring) rfl
  unfold Connector.connectConfig Config.prepared handedOver preparationLog
  rw [hresolved]
  -- Both sides are carried out step by step. Where a step fails both of them stop.
  dsimp only
  rw [Action.runOn_bind, Attempt.tell, Action.runOn_of]
  dsimp only
  rw [Action.runOn_bind, logged_runOn]
  rcases (c.withCredentials ring).variant r with ⟨e | v, lines⟩
  · simp only [Except.bind, List.append_assoc]
  dsimp only [Except.bind]
  rw [Action.runOn_bind, Action.runOn_ofExcept]
  cases (c.withCredentials ring).validate v with
  | error e => simp only [List.append_assoc]
  | ok x =>
  dsimp only
  rw [Action.runOn_bind, Action.runOn_ofExcept]
  cases v.style.connectionString (c.withCredentials ring) with
  | error e => simp only [Except.map, List.append_assoc]
  | ok text =>
  dsimp only [Except.map]
  rw [Action.runOn_bind, Attempt.tell, Action.runOn_of]
  dsimp only
  rw [Action.runOn_bind, openLogged_runOn]
  cases k.reply text v.odbc with
  | error e => simp only [connectingLine, List.append_assoc]
  | ok x =>
    simp only [connectingLine, List.append_assoc, List.append_nil]
    rfl

section

variable (k : Connector) {r : Registry} {ring : Keyring} (db : Database σ) {c : Config}
  (a : Attempt σ)

theorem connectConfig_of_unprepared {e : Failure}
    (h : (c.withCredentials ring).prepared r = .error e) :
    (k.connectConfig r ring db c).runOn a =
      (.error e, { a with log := a.log ++ preparationLog r ring c }) := by
  rw [connectConfig_runOn, h]

variable {v : Variant} {text : String} (h : (c.withCredentials ring).prepared r = .ok (v, text))
include h

theorem connectConfig_of_refused {e : Failure} (hreply : k.reply text v.odbc = .error e) :
    (k.connectConfig r ring db c).runOn a =
      (.error e, { handedOver k r ring c v text a with
        log := (handedOver k r ring c v text a).log ++ openFailureLog e }) := by
  rw [connectConfig_runOn, h]
  dsimp only
  rw [hreply]

theorem connectConfig_of_opened (hreply : k.reply text v.odbc = .ok ()) :
    (k.connectConfig r ring db c).runOn a =
      (enter db v (c.withCredentials ring)).runOn (handedOver k r ring c v text a) := by
  rw [connectConfig_runOn, h]
  dsimp only
  rw [hreply]

end

/-! ## Settings -/

theorem find_log_of_some {r : Registry} {driver : Value} {v : Variant} {log : Log}
    (h : r.find driver = (.ok (some v), log)) : log = [] := by
  unfold Registry.find at h
  cases hkey : Registry.driverKey driver with
  | error e => simp [hkey] at h
  | ok key => cases hget : r.get? key <;> simp_all

theorem ofSettings_log_of_ok {r : Registry} {m : Settings} {c : Config} {log : Log}
    (h : Config.ofSettings r m = (.ok c, log)) : log = [] := by
  unfold Config.ofSettings at h
  dsimp only at h
  split at h
  · cases h
  · cases hread : Config.read m (m.value "driver").plain with
    | error e => simp [hread] at h
    | ok c' =>
      rw [hread] at h
      dsimp only [requireVariant] at h
      rcases hfind : r.find (m.value "driver") with ⟨_ | _ | v, lines⟩
      · simp [hfind, Except.map] at h
      · simp [hfind, Except.map] at h
      · rw [hfind] at h
        rw [← (Prod.mk.inj h).2]
        exact find_log_of_some hfind

theorem connect_of_settings (k : Connector) {r : Registry} (ring : Keyring) (db : Database σ)
    {m : Settings} {c : Config} {log : Log} (h : Config.ofSettings r m = (.ok c, log))
    (a : Attempt σ) : (k.connect r ring db m).runOn a = (k.connectConfig r ring db c).runOn a := by
  obtain rfl := ofSettings_log_of_ok h
  rw [Connector.connect, h, Action.runOn_bind, logged_runOn]
  simp only [List.append_nil]

/-! ## What is handed over and what is sent -/

/-- What becomes of an open connection: its session is in the schema of the configuration, and
nothing was sent but what put it there. -/
structure Enters (db : Database σ) (v : Variant) (c : Config) (link : Link σ)
    (r : Except Failure (Session σ)) (after : Link σ) : Prop where
  /-- Without a schema there is nothing to send. -/
  blank : c.schema.isBlank = true →
    after = link ∧ ∃ s, r = .ok s ∧ s.config = c ∧ s.variant = v ∧ s.currentSchema = ""
  sends : ∀ name, c.schema = .text name → name ≠ "" →
    after.sent = link.sent ++ [⟨schemaStatement, some [.text (upper name)]⟩]
  accepted : ∀ name, c.schema = .text name → name ≠ "" → db.TakesSchema link.memory (upper name) →
    ∃ s, r = .ok s ∧ s.config = c ∧ s.variant = v ∧ s.currentSchema = upper name
  refused : ∀ name text, c.schema = .text name → name ≠ "" →
    (db.answer link.memory schemaStatement (some [.text (upper name)])).1 = .error text →
    r = .error (.database text)

theorem enters_of_enter (db : Database σ) (v : Variant) (c : Config) {a after : Attempt σ}
    {r : Except Failure (Session σ)} (h : (enter db v c).runOn a = (r, after)) :
    Enters db v c a.link r after.link := by
  refine ⟨fun hblank => ?_, fun name hschema hname => ?_, fun name hschema hname haccepted => ?_,
    fun name text hschema hname hrefused => ?_⟩
  · rw [enter_blank db v hblank, Prod.mk.injEq] at h
    obtain ⟨rfl, rfl⟩ := h
    exact ⟨rfl, _, rfl, rfl, rfl, rfl⟩
  · rw [enter_text db v hschema hname] at h
    cases hanswer : (db.answer a.link.memory schemaStatement (some [.text (upper name)])).1 with
    | ok reply =>
      rw [hanswer, Prod.mk.injEq] at h
      rw [← h.2]
      rfl
    | error text =>
      rw [hanswer, Prod.mk.injEq] at h
      rw [← h.2]
      rfl
  · obtain ⟨reply, hreply⟩ := haccepted
    rw [enter_text db v hschema hname, hreply, Prod.mk.injEq] at h
    exact ⟨_, h.1.symm, rfl, rfl, rfl⟩
  · rw [enter_text db v hschema hname, hrefused, Prod.mk.injEq] at h
    exact h.1.symm

/-- **The phases of connecting.** The configuration goes by its own credentials and, where it has
none, by stored ones. Its connection string is handed to the opener, once, exactly when no field is
missing and no integer in it is too long to write. Otherwise the missing fields are reported, or
else the integer, and nothing is sent. What the opener raises is passed on, and then nothing is sent
either. Over an open connection the schema is asked for, if there is one, and nothing else. -/
theorem connect_phases (k : Connector) {opener : String → Except Failure Unit}
    (hk : k.opener = some opener) (ring : Keyring) (db : Database σ) {c : Config} {v : Variant}
    (hv : v ∈ builtinVariants) (hdriver : lower c.driver = v.name) (a : Attempt σ)
    {r : Except Failure (Session σ)} {after : Attempt σ}
    (hrun : (k.connectConfig .builtin ring db c).runOn a = (r, after)) :
    (∀ m log, Config.ofSettings .builtin m = (.ok c, log) →
      (k.connect .builtin ring db m).runOn a = (r, after)) ∧
    ((c.withCredentials ring).missingFor v ≠ [] →
      r = .error (.configuration
        (.missingFields c.driver ((c.withCredentials ring).missingFor v))) ∧
      after.opened = a.opened ∧ after.link = a.link) ∧
    ((c.withCredentials ring).missingFor v = [] → ¬ (c.withCredentials ring).Writable v →
      r = .error (.number .tooLongToWrite) ∧ after.opened = a.opened ∧ after.link = a.link) ∧
    ((c.withCredentials ring).missingFor v = [] → (c.withCredentials ring).Writable v →
      (c.withCredentials ring).Connects v.style (v.style.text (c.withCredentials ring)) ∧
      after.opened = a.opened ++ [⟨v.style.text (c.withCredentials ring), none⟩] ∧
      (∀ e, opener (v.style.text (c.withCredentials ring)) = .error e →
        r = .error e ∧ after.link = a.link) ∧
      (opener (v.style.text (c.withCredentials ring)) = .ok () →
        Enters db v (c.withCredentials ring) a.link r after.link)) := by
  obtain ⟨hincomplete, hlong, hready⟩ :=
    prepared_cases (c := c.withCredentials ring) hv hdriver
  refine ⟨fun m log hm => ?_, fun hmissing => ?_, fun hmissing hwritable => ?_,
    fun hmissing hwritable => ?_⟩
  · rw [connect_of_settings k ring db hm, hrun]
  -- What cannot be prepared is not handed over, whatever is wrong with it.
  · rw [connectConfig_of_unprepared k db a (hincomplete hmissing), Prod.mk.injEq] at hrun
    obtain ⟨rfl, rfl⟩ := hrun
    exact ⟨rfl, rfl, rfl⟩
  · rw [connectConfig_of_unprepared k db a (hlong hmissing hwritable), Prod.mk.injEq] at hrun
    obtain ⟨rfl, rfl⟩ := hrun
    exact ⟨rfl, rfl, rfl⟩
  · refine ⟨connects_of_complete hv hmissing, ?_⟩
    have hprepared := hready hmissing hwritable
    -- With an opener of its own the connector hands over the whole string, scheme and all.
    have hhanded : k.handed (v.style.text (c.withCredentials ring)) v.odbc =
        [⟨v.style.text (c.withCredentials ring), none⟩] := by
      simp only [Connector.handed, hk]
    have hreply : k.reply (v.style.text (c.withCredentials ring)) v.odbc =
        opener (v.style.text (c.withCredentials ring)) := by
      simp only [Connector.reply, hk]
    rw [← hhanded, ← hreply]
    cases hopen : k.reply (v.style.text (c.withCredentials ring)) v.odbc with
    | error e =>
      -- A refusal ends the attempt before anything is sent.
      rw [connectConfig_of_refused k db a hprepared hopen, Prod.mk.injEq] at hrun
      obtain ⟨rfl, rfl⟩ := hrun
      refine ⟨rfl, fun e' he' => ?_, nofun⟩
      cases he'
      exact ⟨rfl, rfl⟩
    | ok x =>
      rw [connectConfig_of_opened k db a hprepared hopen] at hrun
      have henters := enters_of_enter db v _ hrun
      refine ⟨?_, nofun, fun _ => henters⟩
      -- Entering the schema hands nothing over, so the one string stays the only one.
      have hkeeps := enter_keeps db v (c.withCredentials ring)
        (handedOver k .builtin ring c v (v.style.text (c.withCredentials ring)) a)
      rw [hrun] at hkeeps
      exact hkeeps

/-- A driver in capitals, with a user name of its own and a stored password. The string is handed
over with both, and the schema is asked for in upper case. -/
theorem connect_phases_stored_password :
    ∃ (k : Connector) (ring : Keyring) (c : Config) (s : Session Nat) (after : Attempt Nat),
      c.driver = "DB2_IBMI_ODBC" ∧ c.password = .text "" ∧ c.schema = .text "app" ∧
      (k.connectConfig .builtin ring Session.limited c).runOn { link := Link.fresh 1 } =
        (.ok s, after) ∧
      after.opened =
        [⟨"odbc:DRIVER=D;System=h;Database=S;UserID=BOB;Password=pw", none⟩] ∧
      after.link.sent = [⟨schemaStatement, some [.text "APP"]⟩] ∧ s.currentSchema = "APP" := by
  let k : Connector := { opener := some fun _ => .ok (), manager := fun _ _ => .ok () }
  let ring : Keyring := { secrets := ⟨[(secretName "x" .username, "EVE"),
    (secretName "x" .password, "pw")]⟩ }
  let c : Config := {
    driver := "DB2_IBMI_ODBC", driverName := .text "D", host := .text "h", database := .text "S"
    username := .text "BOB", schema := .text "app", connectionId := .text "x" }
  let v : Variant := ⟨"db2_ibmi_odbc", .odbc, .db2, .newTable, odbcFields, true⟩
  have hv : v ∈ builtinVariants := List.mem_cons_self
  have hdriver : lower c.driver = v.name := by
    show lower "DB2_IBMI_ODBC" = "db2_ibmi_odbc"
    decide +kernel
  have hupper : upper "app" = "APP" := rfl
  rcases hrun : (k.connectConfig .builtin ring Session.limited c).runOn
    { link := Link.fresh 1 } with ⟨r, after⟩
  obtain ⟨-, -, -, hready⟩ := connect_phases k rfl ring Session.limited hv hdriver _ hrun
  have hmissing : (c.withCredentials ring).missingFor v = [] := rfl
  have hwritable : (c.withCredentials ring).Writable v := rfl
  obtain ⟨-, hopened, -, henters⟩ := hready hmissing hwritable
  have hentered := henters rfl
  have htakes : Session.limited.TakesSchema 1 (upper "app") :=
    ⟨{ columns := [], rows := .ok [] }, rfl⟩
  obtain ⟨s, rfl, -, -, hcurrent⟩ := hentered.accepted "app" rfl (by decide) htakes
  have hsent := hentered.sends "app" rfl (by decide)
  rw [hupper] at hsent hcurrent
  exact ⟨k, ring, c, s, after, rfl, rfl, rfl, hrun, hopened, hsent, hcurrent⟩

theorem writable_integer (n : Int) : (Value.integer n).writable = true ↔ Number.IsWritable n := by
  simp [Value.writable, Number.IsWritable]

/-- A port with too many digits is neither missing nor handed over: nobody is asked to open the
connection, and no field is reported. -/
theorem long_port_is_not_opened :
    ∃ (k : Connector) (c : Config) (v : Variant) (e : Failure) (after : Attempt Unit),
      k.opener = some (fun _ => .ok ()) ∧ v ∈ builtinVariants ∧ lower c.driver = v.name ∧
      (c.withCredentials {}).missingFor v = [] ∧
      (k.connectConfig .builtin {} (answering .null) c).runOn { link := Link.fresh () } =
        (.error e, after) ∧
      after.opened = [] ∧ ∀ f, e ≠ .configuration f := by
  let k : Connector := { opener := some fun _ => .ok (), manager := fun _ _ => .ok () }
  let c : Config := {
    driver := "db2_luw_ibm", driverName := .text "D", host := .text "h", database := .text "S"
    port := some ((Nat.pow 10 Number.digitLimit : Nat) : Int) }
  let v : Variant := ⟨"db2_luw_ibm", .direct, .db2, .newTable, directFields, false⟩
  have hv : v ∈ builtinVariants := .tail _ (.tail _ (.head _))
  have hdriver : lower c.driver = v.name := by
    show lower "db2_luw_ibm" = "db2_luw_ibm"
    decide +kernel
  have hmissing : (c.withCredentials {}).missingFor v = [] := rfl
  have hlong : ¬ (c.withCredentials {}).Writable v := by
    intro hwritable
    have hport := List.all_eq_true.1 hwritable (c.withCredentials {}).portValue
      (.tail _ (.tail _ (.tail _ (.head _))))
    exact not_isWritable_longNumber ((writable_integer _).1 hport)
  have hprepared := (prepared_cases hv hdriver (c := c.withCredentials {})).2.1 hmissing hlong
  have hrun := connectConfig_of_unprepared k (answering .null) { link := Link.fresh () } hprepared
  exact ⟨k, c, v, _, _, rfl, hv, hdriver, hmissing, hrun, rfl, nofun⟩

end Db2Client.Connection
