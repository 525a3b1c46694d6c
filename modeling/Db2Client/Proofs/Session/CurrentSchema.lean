import Db2Client.Proofs.Session.Frame
import Db2Client.Proofs.Session.RunBlueprint

/-!
# The current schema of a session

A session remembers two schemas. The default one never changes. The current one is the last schema
that an operation asked for and the database accepted, and the default one when there was none.

* `setSchema_runOn`: all that asking for a schema does.
* `run_standing`: one operation. It moves the current schema if it asked for one that was accepted,
  and keeps everything else that the session stands on.
* `standing_afterAll`: a whole run, by induction on the operations.
* `session_remembers_schemas`: what this says after any operation of any run.

Operations may fail anywhere. Acceptance is a matter of the database's answer alone, and a failed
operation changes the schema no more than any other.
-/

namespace Db2Client

open Connection Text

variable {σ : Type}

/-! ## Schemas that are accepted -/

/-- The statement by which a schema is asked for. -/
def schemaStatement : String := "set schema ?"

/-- The database takes the schema as its current one. -/
def Database.TakesSchema (db : Database σ) (m : σ) (name : String) : Prop :=
  ∃ reply, (db.answer m schemaStatement (some [.text name])).1 = .ok reply

theorem Database.not_takesSchema {db : Database σ} {m : σ} {name text : String}
    (h : (db.answer m schemaStatement (some [.text name])).1 = .error text) :
    ¬ db.TakesSchema m name := by
  rintro ⟨reply, hreply⟩
  rw [h] at hreply
  cases hreply

instance (db : Database σ) (m : σ) (name : String) : Decidable (db.TakesSchema m name) :=
  match h : (db.answer m schemaStatement (some [.text name])).1 with
  | .ok reply => .isTrue ⟨reply, h⟩
  | .error _ => .isFalse fun ⟨_, hreply⟩ => nomatch h.symm.trans hreply

namespace Operation

/-- The schema that an operation asks for, in upper case. Resetting asks for the default one. -/
def asks? (default : String) : Operation → Option String
  | .setSchema schema => some (upper schema)
  | .resetSchema => some (upper default)
  | _ => none

/-- The schema that an operation asks for and is given. -/
def takes? (db : Database σ) (s : Session σ) (op : Operation) : Option String :=
  (op.asks? s.defaultSchema).filter fun name => db.TakesSchema s.link.memory name

end Operation

namespace Session

/-! ## Asking for a schema -/

/-- The schema is remembered exactly when the database accepts the statement. -/
theorem setSchema_runOn (db : Database σ) (schema : String) (s : Session σ) :
    (setSchema db schema).runOn s =
      match (db.answer s.link.memory schemaStatement (some [.text (upper schema)])).1 with
      | .ok _ => (.ok (), { s with
          link := s.link.afterSending db schemaStatement (some [.text (upper schema)])
          currentSchema := upper schema
          log := s.log ++ [⟨.info, "Current schema set to " ++ upper schema⟩] })
      | .error text => (.error (.database text), { s with
          link := s.link.afterSending db schemaStatement (some [.text (upper schema)]) }) := by
  have hsend : (statement db schemaStatement [.text (upper schema)]).runOn s =
      (((db.answer s.link.memory schemaStatement (some [.text (upper schema)])).1.mapError
          .database).map fun _ => (),
        { s with
          link := s.link.afterSending db schemaStatement (some [.text (upper schema)]) }) := by
    rw [statement, onLink, Action.onPart, Action.runOn_of, Link.statement_runOn_given]
    rfl
  show (statement db schemaStatement [.text (upper schema)] >>= _).runOn s = _
  rw [Action.runOn_bind, hsend]
  cases (db.answer s.link.memory schemaStatement (some [.text (upper schema)])).1 <;> rfl

theorem setSchema_sent (db : Database σ) (schema : String) (s : Session σ) :
    ((setSchema db schema).runOn s).2.link.sent =
      s.link.sent ++ [⟨schemaStatement, some [.text (upper schema)]⟩] := by
  rw [setSchema_runOn]
  cases (db.answer s.link.memory schemaStatement (some [.text (upper schema)])).1 <;> rfl

theorem setSchema_ok_iff (db : Database σ) (schema : String) (s : Session σ) :
    (∃ x, ((setSchema db schema).runOn s).1 = .ok x) ↔
      db.TakesSchema s.link.memory (upper schema) := by
  rw [setSchema_runOn, Database.TakesSchema]
  cases (db.answer s.link.memory schemaStatement (some [.text (upper schema)])).1 with
  | error text => exact ⟨nofun, nofun⟩
  | ok reply => exact ⟨fun _ => ⟨reply, rfl⟩, fun _ => ⟨(), rfl⟩⟩

theorem setSchema_standing (db : Database σ) (schema : String) (s : Session σ) :
    ((setSchema db schema).runOn s).2.standing =
      { s.standing with currentSchema :=
          if db.TakesSchema s.link.memory (upper schema) then upper schema
          else s.currentSchema } := by
  rw [setSchema_runOn]
  cases h : (db.answer s.link.memory schemaStatement (some [.text (upper schema)])).1 with
  | error text =>
    rw [if_neg (Database.not_takesSchema h)]
    rfl
  | ok reply =>
    rw [if_pos ⟨reply, h⟩]
    rfl

/-! ## One operation -/

/-- The operations that ask for no schema keep what the session stands on. -/
theorem run_keeps (db : Database σ) {op : Operation} (h : ∀ default, op.asks? default = none) :
    (op.run db).Keeps standing := by
  cases op with
  | setSchema schema => cases h ""
  | resetSchema => cases h ""
  | qualify table => exact .bind now_keeps fun _ => .ofExcept _
  | systemCommand command => exact .bind (statement_keeps db _ _) fun _ => .pure _
  | statement text bindings => exact .bind (statement_keeps db text bindings) fun _ => .pure _
  | select text bindings => exact .bind (select_keeps db text bindings) fun _ => .pure _
  | selectOne text bindings => exact .bind (selectOne_keeps db text bindings) fun _ => .pure _
  | insertGetKey insert bindings key => exact insertGetKey_keeps db insert bindings key
  | hasTable table => exact .bind (hasTable_keeps db table) fun _ => .pure _
  | columnNames table => exact .bind (columnNames_keeps db table) fun _ => .pure _
  | runBlueprint bp => exact .bind (runBlueprint_keeps db bp) fun _ => .pure _
  | selectQuery request => exact .bind now_keeps fun _ => .bind (.ofExcept _) fun _ => .pure _
  | formatDate moment => exact .bind now_keeps fun _ => .bind (.ofExcept _) fun _ => .pure _
  | close => exact .bind (onLink_keeps Link.close_keeps) fun _ => .pure _

theorem run_of_asks (db : Database σ) {op : Operation} {s : Session σ} {name : String}
    (h : op.asks? s.defaultSchema = some name) :
    ∃ schema, upper schema = name ∧
      (op.run db).runOn s =
        (((setSchema db schema).runOn s).1.map fun _ => .null,
          ((setSchema db schema).runOn s).2) := by
  have hanswer (schema : String) :
      (do setSchema db schema; return Value.null : Action (Session σ) Value).runOn s =
        (((setSchema db schema).runOn s).1.map fun _ => .null,
          ((setSchema db schema).runOn s).2) := by
    rw [Action.runOn_bind]
    rcases (setSchema db schema).runOn s with ⟨_ | _, _⟩ <;> rfl
  cases op with
  | setSchema schema => exact ⟨schema, Option.some.inj h, hanswer schema⟩
  | resetSchema => exact ⟨s.defaultSchema, Option.some.inj h, hanswer s.defaultSchema⟩
  | _ => cases h

/-- **One operation.** The current schema becomes the one that was asked for and accepted. All else
that the session stands on stays. -/
theorem run_standing (db : Database σ) (op : Operation) (s : Session σ) :
    ((op.run db).runOn s).2.standing =
      { s.standing with currentSchema := (op.takes? db s).getD s.currentSchema } := by
  cases hasks : op.asks? s.defaultSchema with
  | none =>
    -- Whether an operation asks for a schema does not depend on the default one.
    have hnever : ∀ default, op.asks? default = none := by
      cases op with
      | setSchema schema => cases hasks
      | resetSchema => cases hasks
      | _ => exact fun _ => rfl
    rw [run_keeps db hnever s, Operation.takes?, hasks]
    rfl
  | some name =>
    obtain ⟨schema, rfl, hrun⟩ := run_of_asks db hasks
    rw [hrun, setSchema_standing, Operation.takes?, hasks]
    by_cases htakes : db.TakesSchema s.link.memory (upper schema)
    · simp [Option.filter, htakes]
    · simp [Option.filter, htakes, standing]

/-! ## Operations one after another -/

/-- The session after a run. An operation that fails does not end it. -/
def afterAll (db : Database σ) (s : Session σ) : List Operation → Session σ
  | [] => s
  | op :: rest => afterAll db ((op.run db).runOn s).2 rest

/-- The schemas that the operations of a run are given, in order. -/
def schemasTaken (db : Database σ) (s : Session σ) : List Operation → List String
  | [] => []
  | op :: rest => (op.takes? db s).toList ++ schemasTaken db ((op.run db).runOn s).2 rest

theorem afterAll_concat (db : Database σ) (s : Session σ) (ops : List Operation)
    (op : Operation) :
    s.afterAll db (ops ++ [op]) = ((op.run db).runOn (s.afterAll db ops)).2 := by
  induction ops generalizing s with
  | nil => rfl
  | cons first rest ih => exact ih _

/-- **A whole run.** The current schema is the last one that was given, or the one that the run
began with. -/
theorem standing_afterAll (db : Database σ) (s : Session σ) (ops : List Operation) :
    (s.afterAll db ops).standing =
      { s.standing with
        currentSchema := (s.schemasTaken db ops).getLast?.getD s.currentSchema } := by
  induction ops generalizing s with
  | nil => rfl
  | cons op rest ih =>
    have hstep := run_standing db op s
    have hcurrent : ((op.run db).runOn s).2.currentSchema =
        (op.takes? db s).getD s.currentSchema := congrArg Standing.currentSchema hstep
    rw [afterAll, ih, hstep, hcurrent, schemasTaken, List.getLast?_append]
    cases (schemasTaken db ((op.run db).runOn s).2 rest).getLast? <;>
      cases op.takes? db s <;> rfl

theorem schemaName_text (schema : String) : schemaName (.text schema) = .ok (upper schema) := by
  by_cases h : schema = ""
  · subst h
    rfl
  · simp [schemaName, Value.truthy, h]

theorem start_ok {v : Variant} {c : Config} {link : Link σ} {s : Session σ}
    (h : start v c link = .ok s) :
    schemaName c.schema = .ok s.defaultSchema ∧ s.currentSchema = s.defaultSchema := by
  obtain ⟨name, hname, rfl⟩ := map_eq_ok h
  exact ⟨hname, rfl⟩

/-- **The schemas of a session.** After every operation of a run, whether it succeeded or failed,
the default schema is the configured one in upper case, the current schema is the last one that was
asked for and accepted, or the default one, and no more cursors are open than before the operation.
An operation that asks for a schema sends its statement, and succeeds exactly when the database
accepts it. -/
theorem session_remembers_schemas (db : Database σ) {v : Variant} {c : Config} {link : Link σ}
    {s : Session σ} (hstart : start v c link = .ok s) (ops : List Operation) (op : Operation)
    {before after : Session σ} {r : Except Failure Value} (hbefore : s.afterAll db ops = before)
    (hrun : (op.run db).runOn before = (r, after)) :
    (∀ schema, c.schema = .text schema → after.defaultSchema = upper schema) ∧
    (c.schema = .null → after.defaultSchema = "") ∧
    after.currentSchema =
      (s.schemasTaken db (ops ++ [op])).getLast?.getD after.defaultSchema ∧
    after.link.openCursors = before.link.openCursors ∧
    (∀ name, op.asks? before.defaultSchema = some name →
      after.link.sent = before.link.sent ++ [⟨schemaStatement, some [.text name]⟩] ∧
      ((∃ x, r = .ok x) ↔ db.TakesSchema before.link.memory name)) := by
  have hafter : s.afterAll db (ops ++ [op]) = after := by
    rw [afterAll_concat, hbefore, hrun]
  -- The run keeps one invariant, which tells both schemas at once.
  have hstanding := standing_afterAll db s (ops ++ [op])
  rw [hafter] at hstanding
  have hdefault : after.defaultSchema = s.defaultSchema :=
    congrArg Standing.defaultSchema hstanding
  obtain ⟨hname, hcurrent⟩ := start_ok hstart
  refine ⟨fun schema hschema => ?_, fun hschema => ?_, ?_, ?_, fun name hasks => ?_⟩
  · rw [hschema, schemaName_text] at hname
    rw [hdefault, ← Except.ok.inj hname]
  · rw [hschema] at hname
    rw [hdefault, ← Except.ok.inj hname]
  · rw [hdefault, ← hcurrent]
    exact congrArg Standing.currentSchema hstanding
  -- Cursors are counted from this operation on, so its own step is enough.
  · have hstep := run_standing db op before
    rw [hrun] at hstep
    exact congrArg Standing.openCursors hstep
  · obtain ⟨schema, rfl, hset⟩ := run_of_asks db hasks
    rw [hrun, Prod.mk.injEq] at hset
    obtain ⟨rfl, rfl⟩ := hset
    refine ⟨setSchema_sent db schema before, ?_⟩
    rw [← setSchema_ok_iff]
    cases ((setSchema db schema).runOn before).1 with
    | error e => exact ⟨nofun, nofun⟩
    | ok x => exact ⟨fun _ => ⟨x, rfl⟩, fun _ => ⟨.null, rfl⟩⟩

/-- The database takes a schema and a query and then nothing more. Resetting the schema is refused,
and the session goes on in the schema that was taken. -/
theorem session_remembers_schema_past_refusal :
    ∃ (c : Config) (s before after : Session Nat) (r : Except Failure Value),
      c.schema = .text "app" ∧
      s.afterAll limited [.setSchema "sales", .select "values 1" []] = before ∧
      (Operation.resetSchema.run limited).runOn before = (r, after) ∧
      (¬ ∃ x, r = .ok x) ∧ after.defaultSchema = "APP" ∧ after.currentSchema = "SALES" ∧
      after.link.openCursors = before.link.openCursors := by
  let c : Config := { driver := "db2_ibmi_odbc", schema := .text "app" }
  let v : Variant := ⟨"db2_ibmi_odbc", .odbc, .db2, .newTable, [], true⟩
  let s : Session Nat :=
    { config := c, variant := v, defaultSchema := "APP", currentSchema := "APP",
      link := Link.fresh 2 }
  have hupper : upper "sales" = "SALES" ∧ upper "app" = "APP" ∧ upper "APP" = "APP" :=
    ⟨rfl, rfl, rfl⟩
  have hstart : start v c (Link.fresh 2) = .ok s := by
    rw [start, schemaName_text, hupper.2.1]
    rfl
  have htaken : s.schemasTaken limited [.setSchema "sales", .select "values 1" [], .resetSchema] =
      ["SALES"] := by
    rfl
  rcases hbefore : s.afterAll limited [.setSchema "sales", .select "values 1" []] with before
  rcases hrun : (Operation.resetSchema.run limited).runOn before with ⟨r, after⟩
  obtain ⟨hdefault, -, hcurrent, hcursors, hasks⟩ :=
    session_remembers_schemas limited hstart _ _ hbefore hrun
  have hmemory : before.link.memory = 0 := by
    rw [← hbefore]
    rfl
  have hasked : Operation.resetSchema.asks? before.defaultSchema = some "APP" := by
    have hbeforeDefault : before.defaultSchema = "APP" := by
      rw [← hbefore]
      rfl
    rw [hbeforeDefault, Operation.asks?, hupper.2.2]
  have hrefused : ¬ limited.TakesSchema before.link.memory "APP" := by
    rw [hmemory]
    exact Database.not_takesSchema rfl
  rw [List.cons_append, List.cons_append, List.nil_append, htaken] at hcurrent
  rw [hdefault "app" rfl] at hcurrent
  refine ⟨c, s, before, after, r, rfl, hbefore, hrun, ?_, ?_, hcurrent, hcursors⟩
  · rwa [(hasks "APP" hasked).2]
  · rw [hdefault "app" rfl, hupper.2.1]

end Session

end Db2Client
