import Db2Client.Proofs.Connection.Connecting
import Db2Client.Proofs.Connection.Mask

/-!
# What connecting leaves in the log

Once a configuration is prepared the log gets one line that tells what is connected to, and then at
most one more: the explanation of a refusal to open, or the change of the schema
(`connectLog_of_prepared`). Two properties are read off this.

* `connectLog_password_iff`: how far the log depends on the password. It does not when the password
  has no semicolon. What follows a semicolon is not part of the masked value any more, and it is
  logged (`password_after_semicolon_logged`).
* `failure_logged`: which failures are explained. A refusal to open is, unless it is a fault of the
  configuration. A refused schema is passed on without a word (`refused_schema_unexplained`).
-/

namespace Db2Client.Connection

open Diagnosis Text

variable {σ : Type}

/-! ## The log of a run -/

/-- The log that an attempt to connect leaves. -/
def connectLog (k : Connector) (r : Registry) (ring : Keyring) (db : Database σ) (c : Config)
    (a : Attempt σ) : Log := ((k.connectConfig r ring db c).runOn a).2.log

/-- What starting a session adds to the log: the schema, if it was asked for and accepted. -/
def enteringLog (db : Database σ) (schema : Value) (link : Link σ) : Log :=
  match schema with
  | .text name =>
    if name ≠ "" ∧ db.TakesSchema link.memory (upper name) then [schemaLine (upper name)] else []
  | _ => []

theorem enter_log (db : Database σ) (v : Variant) (c : Config) (a : Attempt σ) :
    ((enter db v c).runOn a).2.log = a.log ++ enteringLog db c.schema a.link := by
  by_cases htext : ∃ name, c.schema = .text name
  · obtain ⟨name, hschema⟩ := htext
    by_cases hname : name = ""
    · subst hname
      rw [enter_blank db v (by rw [hschema]; rfl), hschema]
      simp [enteringLog]
    · rw [enter_text db v hschema hname, hschema]
      cases hanswer : (db.answer a.link.memory schemaStatement (some [.text (upper name)])).1 with
      | ok reply =>
        have htakes : db.TakesSchema a.link.memory (upper name) := ⟨reply, hanswer⟩
        simp [enteringLog, hname, htakes]
      | error text => simp [enteringLog, Database.not_takesSchema hanswer]
  · rw [not_exists] at htext
    rw [enter_not_text db v htext]
    unfold enteringLog
    split
    · rename_i name hname
      exact absurd hname (htext name)
    · rw [List.append_nil]

/-- **The log after the preparation.** One line tells what is connected to, and then comes what
became of it. -/
theorem connectLog_of_prepared (k : Connector) {r : Registry} {ring : Keyring} (db : Database σ)
    {c : Config} (a : Attempt σ) {v : Variant} {text : String}
    (h : (c.withCredentials ring).prepared r = .ok (v, text)) :
    connectLog k r ring db c a =
      a.log ++ preparationLog r ring c ++ connectingLine v text ::
        match k.reply text v.odbc with
        | .error e => openFailureLog e
        | .ok _ => enteringLog db c.schema a.link := by
  unfold connectLog
  cases hreply : k.reply text v.odbc with
  | error e =>
    rw [connectConfig_of_refused k db a h hreply]
    simp [handedOver]
  | ok x =>
    rw [connectConfig_of_opened k db a h hreply, enter_log]
    simp [handedOver, Config.withCredentials]

theorem connectLog_of_unprepared (k : Connector) {r : Registry} {ring : Keyring} (db : Database σ)
    {c : Config} (a : Attempt σ) {e : Failure}
    (h : (c.withCredentials ring).prepared r = .error e) :
    connectLog k r ring db c a = a.log ++ preparationLog r ring c := by
  rw [connectLog, connectConfig_of_unprepared k db a h]

/-! ## A complete configuration -/

/-- A complete configuration for a driver of IBM i, with a schema. -/
def completeConfig (password : String) : Config where
  driver := "db2_ibmi_odbc"
  driverName := .text "D"
  host := .text "h"
  database := .text "S"
  username := .text "BOB"
  password := .text password
  schema := .text "app"

def completeVariant : Variant := ⟨"db2_ibmi_odbc", .odbc, .db2, .newTable, odbcFields, true⟩

theorem completeVariant_mem : completeVariant ∈ builtinVariants := List.mem_cons_self

theorem driver_completeConfig (password : String) :
    lower (completeConfig password).driver = completeVariant.name := by
  show lower "db2_ibmi_odbc" = "db2_ibmi_odbc"
  decide +kernel

theorem withCredentials_completeConfig (ring : Keyring) {password : String} (h : password ≠ "") :
    (completeConfig password).withCredentials ring = completeConfig password := by
  simp [Config.withCredentials, Config.credential, completeConfig, Value.truthy, h]

theorem prepared_completeConfig (ring : Keyring) {password : String} (h : password ≠ "") :
    ((completeConfig password).withCredentials ring).prepared .builtin =
      .ok (completeVariant, odbcString (completeConfig password)) := by
  have hmissing : (completeConfig password).missingFor completeVariant = [] := by
    have hfilled : ∀ name ∈ odbcFields, (completeConfig password).blank name = false := by
      simp [odbcFields, Config.blank, Config.field, completeConfig, Value.isBlank, h]
    exact List.filter_eq_nil_iff.2 fun name hname => by simp [hfilled name hname]
  have hwritable : (completeConfig password).Writable completeVariant := rfl
  rw [withCredentials_completeConfig ring h]
  exact (prepared_cases completeVariant_mem (driver_completeConfig password)).2.2 hmissing hwritable

theorem secret_ne_empty : ("secret" : String) ≠ "" := by decide

/-- An opener that refuses nothing. -/
def willing : Connector where
  opener := some fun _ => .ok ()
  manager := fun _ _ => .ok ()

/-! ## Failures -/

/-- The line that explains a failure. -/
def explanationLine (e : Failure) : LogLine :=
  ⟨.error, (Explanation.ofText e.message).withDetails⟩

theorem openFailureLog_of_ne {e : Failure} (h : ∀ f, e ≠ .configuration f) :
    openFailureLog e = [explanationLine e] := by
  unfold openFailureLog
  split
  · rename_i f
    exact absurd rfl (h f)
  · rfl

/-- **Failures in the log.** Every failure is passed on as it is. A refusal to open the connection
is explained last in the log, unless it is a fault of the configuration, which is not explained.
Neither is the refusal of the schema: the log ends with what was connected to. -/
theorem failure_logged (k : Connector) {r : Registry} {ring : Keyring} (db : Database σ)
    {c : Config} {v : Variant} {text : String}
    (h : (c.withCredentials ring).prepared r = .ok (v, text)) (a : Attempt σ)
    {res : Except Failure (Session σ)} {after : Attempt σ}
    (hrun : (k.connectConfig r ring db c).runOn a = (res, after)) :
    (∀ e, k.reply text v.odbc = .error e →
      res = .error e ∧ after.link = a.link ∧
      ((∀ f, e ≠ .configuration f) → after.log =
        a.log ++ preparationLog r ring c ++ [connectingLine v text, explanationLine e]) ∧
      ((∃ f, e = .configuration f) → after.log =
        a.log ++ preparationLog r ring c ++ [connectingLine v text])) ∧
    (k.reply text v.odbc = .ok () → ∀ name reason, c.schema = .text name → name ≠ "" →
      (db.answer a.link.memory schemaStatement (some [.text (upper name)])).1 = .error reason →
      res = .error (.database reason) ∧
      after.log = a.log ++ preparationLog r ring c ++ [connectingLine v text]) := by
  have hlog : after.log = connectLog k r ring db c a := by rw [connectLog, hrun]
  rw [hlog, connectLog_of_prepared k db a h]
  refine ⟨fun e hreply => ?_, fun hreply name reason hschema hname hrefused => ?_⟩
  · rw [connectConfig_of_refused k db a h hreply, Prod.mk.injEq] at hrun
    obtain ⟨rfl, rfl⟩ := hrun
    refine ⟨rfl, rfl, fun he => ?_, ?_⟩
    · rw [hreply]
      dsimp only
      rw [openFailureLog_of_ne he]
    · rintro ⟨f, rfl⟩
      rw [hreply]
      rfl
  -- The opener was willing, so only the schema is left to be refused.
  · rw [connectConfig_of_opened k db a h hreply] at hrun
    have henters := enters_of_enter db v _ hrun
    refine ⟨henters.refused name reason hschema hname hrefused, ?_⟩
    rw [hreply, hschema]
    simp [enteringLog, Database.not_takesSchema hrefused]

/-- A driver that cannot reach its server is explained, and its failure is passed on. -/
theorem failure_logged_unreachable :
    ∃ (k : Connector) (e : Failure) (after : Attempt Nat),
      (k.connectConfig .builtin {} Session.limited (completeConfig "secret")).runOn
        { link := Link.fresh 0 } = (.error e, after) ∧
      after.log = [connectingLine completeVariant (odbcString (completeConfig "secret")),
        explanationLine e] := by
  let e : Failure := .database "SQL30081N"
  let k : Connector := { opener := some fun _ => .error e, manager := fun _ _ => .ok () }
  have hprepared := prepared_completeConfig {} secret_ne_empty
  rcases hrun : (k.connectConfig .builtin {} Session.limited (completeConfig "secret")).runOn
    { link := Link.fresh 0 } with ⟨res, after⟩
  obtain ⟨hrefused, -⟩ := failure_logged k Session.limited hprepared _ hrun
  obtain ⟨rfl, -, hexplained, -⟩ := hrefused e rfl
  exact ⟨k, e, after, hrun, hexplained nofun⟩

/-- The connection is open and the database refuses the schema. The failure is passed on, and the
log explains nothing. -/
theorem refused_schema_unexplained :
    ∃ (reason : String) (after : Attempt Nat),
      (Session.limited.answer 0 schemaStatement (some [.text (upper "app")])).1 = .error reason ∧
      (willing.connectConfig .builtin {} Session.limited (completeConfig "secret")).runOn
        { link := Link.fresh 0 } = (.error (.database reason), after) ∧
      ∀ line ∈ after.log, line.level ≠ .error := by
  let a : Attempt Nat := { link := Link.fresh 0 }
  have hprepared := prepared_completeConfig {} secret_ne_empty
  rcases hrun :
    (willing.connectConfig .builtin {} Session.limited (completeConfig "secret")).runOn a with
    ⟨res, after⟩
  have hlog :
      after.log = [connectingLine completeVariant (odbcString (completeConfig "secret"))] := by
    have hconnect := connectLog_of_prepared willing Session.limited a hprepared
    rw [connectLog, hrun] at hconnect
    rw [hconnect]
    rfl
  rw [connectConfig_of_opened willing Session.limited a hprepared rfl] at hrun
  have henters := enters_of_enter Session.limited completeVariant _ hrun
  obtain rfl := henters.refused "app" _ rfl (by decide) rfl
  refine ⟨"locked", after, rfl, rfl, fun line hline => ?_⟩
  rw [hlog, List.mem_singleton] at hline
  rw [hline]
  nofun

/-! ## The password -/

section

variable {p q : String}

theorem withCredentials_withPassword (c : Config) (ring : Keyring) (hp : p ≠ "") :
    (c.withPassword p).withCredentials ring = (c.withCredentials ring).withPassword p := by
  have hown : (c.withPassword p).credential ring (.text p) .password = .text p :=
    if_pos (truthy_text hp)
  rw [Config.withCredentials]
  show { c.withCredentials ring with
    password := (c.withPassword p).credential ring (.text p) .password } = _
  rw [hown]
  rfl

theorem preparationLog_withPassword (r : Registry) (ring : Keyring) (c : Config) (hp : p ≠ "")
    (hq : q ≠ "") :
    preparationLog r ring (c.withPassword p) = preparationLog r ring (c.withPassword q) := by
  have hasks : (c.withPassword p).asksKeyring = (c.withPassword q).asksKeyring := by
    simp [Config.asksKeyring, Config.withPassword, truthy_text hp, truthy_text hq]
  have hresolved :
      ((c.withPassword p).resolved ring).2 = ((c.withPassword q).resolved ring).2 := by
    unfold Config.resolved
    rw [hasks]
    split <;> rfl
  rw [preparationLog, preparationLog, hresolved]
  rfl

theorem lacks_withPassword (c : Config) (hp : p ≠ "") (hq : q ≠ "") (name : String) :
    (c.withPassword p).lacks name = (c.withPassword q).lacks name := by
  have hfield : ((c.withPassword p).field name).map Value.isBlank =
      ((c.withPassword q).field name).map Value.isBlank := by
    by_cases hname : name = "password"
    · subst hname
      simp [Config.field, Config.withPassword, Except.map, Value.isBlank, hp, hq]
    · unfold Config.field
      split <;> first | rfl | contradiction
  rw [Config.lacks, Config.lacks, hfield]

theorem validate_withPassword (c : Config) (hp : p ≠ "") (hq : q ≠ "") (v : Variant) :
    (c.withPassword p).validate v = (c.withPassword q).validate v := by
  have hmissing : ∀ names, (c.withPassword p).missing names = (c.withPassword q).missing names := by
    intro names
    induction names with
    | nil => rfl
    | cons name rest ih =>
      rw [Config.missing, Config.missing, lacks_withPassword c hp hq, ih]
  rw [Config.validate, Config.validate, hmissing]
  rfl

theorem writable_withPassword (c : Config) (v : Variant) :
    (c.withPassword p).Writable v ↔ (c.withPassword q).Writable v := by
  unfold Config.Writable Style.parts
  cases v.style <;> rfl

theorem prepared_withPassword (r : Registry) (ring : Keyring) (c : Config) (hp : p ≠ "")
    (hq : q ≠ "") :
    (∃ e, ((c.withPassword p).withCredentials ring).prepared r = .error e ∧
      ((c.withPassword q).withCredentials ring).prepared r = .error e) ∨
    ∃ v, (c.variant r).1 = .ok v ∧
      ((c.withPassword p).withCredentials ring).prepared r =
        .ok (v, v.style.text ((c.withPassword p).withCredentials ring)) ∧
      ((c.withPassword q).withCredentials ring).prepared r =
        .ok (v, v.style.text ((c.withPassword q).withCredentials ring)) := by
  rw [withCredentials_withPassword c ring hp, withCredentials_withPassword c ring hq]
  have hvariant : ∀ password,
      ((c.withCredentials ring).withPassword password).variant r = c.variant r := fun _ => rfl
  -- From here on the password is only looked at for being empty, until the text is written.
  generalize c.withCredentials ring = d at hvariant ⊢
  unfold Config.prepared
  rw [hvariant, hvariant]
  cases (c.variant r).1 with
  | error e => exact .inl ⟨e, rfl, rfl⟩
  | ok v =>
    dsimp only [Except.bind]
    rw [validate_withPassword d hp hq]
    cases (d.withPassword q).validate v with
    | error e => exact .inl ⟨e, rfl, rfl⟩
    | ok x =>
      dsimp only
      by_cases hwritable : (d.withPassword p).Writable v
      · rw [connectionString_of_writable hwritable,
          connectionString_of_writable ((writable_withPassword d v).1 hwritable)]
        exact .inr ⟨v, rfl, rfl, rfl⟩
      · rw [connectionString_of_not_writable hwritable,
          connectionString_of_not_writable (mt (writable_withPassword d v).2 hwritable)]
        exact .inl ⟨_, rfl, rfl⟩

theorem connectingLine_eq_iff {v : Variant} {s t : String} :
    connectingLine v s = connectingLine v t ↔ maskPassword s = maskPassword t := by
  rw [connectingLine, connectingLine, LogLine.mk.injEq, and_iff_right rfl, String.append_right_inj]

/-- **The password in the log.** Two attempts that differ in the password alone leave the same log
exactly when nothing is handed over or the segments of the two passwords are masked alike. So they
do when neither password has a semicolon. -/
theorem connectLog_password_iff (k : Connector) {r : Registry} (ring : Keyring) (db : Database σ)
    {c : Config} {v : Variant} (hvariant : (c.variant r).1 = .ok v) (hodbc : v.style = .odbc)
    (hp : p ≠ "") (hq : q ≠ "")
    (hbehave : k.reply (odbcString ((c.withPassword p).withCredentials ring)) v.odbc =
      k.reply (odbcString ((c.withPassword q).withCredentials ring)) v.odbc) (a : Attempt σ) :
    (connectLog k r ring db (c.withPassword p) a = connectLog k r ring db (c.withPassword q) a ↔
      (∃ e, ((c.withPassword p).withCredentials ring).prepared r = .error e) ∨
        maskPassword (passwordSegment p) = maskPassword (passwordSegment q)) ∧
    (';' ∉ p.toList → ';' ∉ q.toList →
      connectLog k r ring db (c.withPassword p) a =
        connectLog k r ring db (c.withPassword q) a) := by
  have hlogs :
      connectLog k r ring db (c.withPassword p) a = connectLog k r ring db (c.withPassword q) a ↔
        (∃ e, ((c.withPassword p).withCredentials ring).prepared r = .error e) ∨
          maskPassword (passwordSegment p) = maskPassword (passwordSegment q) := by
    have hbefore := preparationLog_withPassword r ring c hp hq
    obtain ⟨e, hpe, hqe⟩ | ⟨v', hv', hpok, hqok⟩ := prepared_withPassword r ring c hp hq
    · refine iff_of_true ?_ (.inl ⟨e, hpe⟩)
      rw [connectLog_of_unprepared k db a hpe, connectLog_of_unprepared k db a hqe, hbefore]
    -- Both attempts get as far as the opener, and only the line with the text can differ.
    · obtain rfl : v' = v := Except.ok.inj (hv'.symm.trans hvariant)
      rw [hodbc] at hpok hqok
      have hprepared : ¬ ∃ e, ((c.withPassword p).withCredentials ring).prepared r = .error e := by
        rintro ⟨e, he⟩
        cases hpok.symm.trans he
      have hmasked := maskPassword_odbcString_iff (c.withCredentials ring) p q
      rw [← withCredentials_withPassword c ring hp, ← withCredentials_withPassword c ring hq,
        ← connectingLine_eq_iff (v := v')] at hmasked
      rw [connectLog_of_prepared k db a hpok, connectLog_of_prepared k db a hqok, Style.text,
        Style.text, hbehave, hbefore, or_iff_right hprepared, ← hmasked,
        List.append_cancel_left_eq, List.cons.injEq]
      exact and_iff_left rfl
  refine ⟨hlogs, fun hp' hq' => hlogs.2 (.inr ?_)⟩
  rw [maskPassword_segment hp', maskPassword_segment hq']

/-- Two passwords without a semicolon, over a database that takes the schema. -/
theorem connectLog_password_hidden :
    connectLog willing .builtin {} Session.limited (completeConfig "secret")
        { link := Link.fresh 1 } =
      connectLog willing .builtin {} Session.limited (completeConfig "hunter2")
        { link := Link.fresh 1 } := by
  have hvariant : ((completeConfig "").variant .builtin).1 = .ok completeVariant := by
    rw [variant_builtin completeVariant_mem (driver_completeConfig "")]
  have hother : ("hunter2" : String) ≠ "" := by decide
  exact (connectLog_password_iff willing {} Session.limited hvariant rfl secret_ne_empty hother rfl
    { link := Link.fresh 1 }).2 (by decide) (by decide)

/-- What follows a semicolon in a password is logged. -/
theorem password_after_semicolon_logged :
    connectLog willing .builtin {} Session.limited (completeConfig "secret")
        { link := Link.fresh 1 } ≠
      connectLog willing .builtin {} Session.limited (completeConfig "se;cret")
        { link := Link.fresh 1 } := by
  intro hlogs
  have hother : ("se;cret" : String) ≠ "" := by decide
  rw [connectLog_of_prepared willing Session.limited _ (prepared_completeConfig {} secret_ne_empty),
    connectLog_of_prepared willing Session.limited _ (prepared_completeConfig {} hother)] at hlogs
  have hlines := (List.cons.inj (List.append_cancel_left hlogs)).1
  -- The lines are alike only if the segments are, and one of them still shows the rest.
  have hmasked :
      maskPassword (passwordSegment "secret") = maskPassword (passwordSegment "se;cret") :=
    (maskPassword_odbcString_iff (completeConfig "") "secret" "se;cret").1
      (connectingLine_eq_iff.1 hlines)
  have hhidden : ';' ∉ ("se" : String).toList := by decide
  have hrest : maskPassword (passwordSegment "se;cret") = "Password=***;" ++ maskPassword "cret" :=
    maskPassword_segment_semicolon hhidden "cret"
  rw [maskPassword_segment (by decide), hrest] at hmasked
  exact absurd hmasked (by decide)

end

end Db2Client.Connection
