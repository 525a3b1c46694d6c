import Db2Client.Session.Database

/-!
# What a statement does to a link

A statement is sent once, whatever becomes of it, and leaves no cursor open.

* `afterSending`: the link once a statement was sent.
* `statement_runOn`, `select_runOn`, `selectOne_runOn`: running a statement or a query moves the
  link to `afterSending` and nowhere else.
* `Accepts`: the database takes statements one after another.
-/

namespace Db2Client

variable {σ : Type}

/-- The first row of a reply, once its rows are fetched. -/
def Reply.firstRow (r : Reply) : Except Failure (Option Row) :=
  (r.rows.mapError .database).map fun rows => (rows.map (Row.ofCells r.columns)).head?

/-- All rows of a reply, once they are fetched. -/
def Reply.allRows (r : Reply) : Except Failure (List Row) :=
  (r.rows.mapError .database).map fun rows => rows.map (Row.ofCells r.columns)

namespace Link

/-- The link once a statement was sent. -/
def afterSending (db : Database σ) (text : String) (bindings : Option (List Value))
    (link : Link σ) : Link σ :=
  { link with
    memory := (db.answer link.memory text bindings).2
    sent := link.sent ++ [⟨text, bindings⟩] }

/-- The bindings as they are sent. -/
def given (bindings : List Value) : Option (List Value) :=
  if bindings.isEmpty then none else some bindings

theorem execute_runOn_given (db : Database σ) (text : String) (bindings : List Value)
    (link : Link σ) :
    (execute db text bindings).runOn link =
      ((db.answer link.memory text (given bindings)).1.mapError .database,
        link.afterSending db text (given bindings)) := rfl

/-- A statement succeeds exactly when the database accepts it. -/
theorem statement_runOn_given (db : Database σ) (text : String) (bindings : List Value)
    (link : Link σ) :
    (statement db text bindings).runOn link =
      (((db.answer link.memory text (given bindings)).1.mapError .database).map fun _ => (),
        link.afterSending db text (given bindings)) := by
  simp only [statement, withCursor, Action.runOn_of, Action.runOn_bind, execute_runOn_given]
  cases (db.answer link.memory text (given bindings)).1 <;> rfl

theorem statement_runOn (db : Database σ) (text : String) (link : Link σ) :
    (statement db text []).runOn link =
      (((db.answer link.memory text none).1.mapError .database).map fun _ => (),
        link.afterSending db text none) := statement_runOn_given db text [] link

/-- The query fails when the database refuses it or the rows cannot be fetched. -/
theorem select_runOn (db : Database σ) (text : String) (bindings : List Value) (link : Link σ) :
    (select db text bindings).runOn link =
      (((db.answer link.memory text (given bindings)).1.mapError .database).bind Reply.allRows,
        link.afterSending db text (given bindings)) := by
  simp only [select, withCursor, Action.runOn_bind, Action.runOn_of, execute_runOn_given,
    Action.runOn_ofExcept]
  rcases db.answer link.memory text (given bindings) with ⟨_ | ⟨columns, _ | rows⟩, memory⟩ <;> rfl

theorem selectOne_runOn (db : Database σ) (text : String) (link : Link σ) :
    (selectOne db text []).runOn link =
      (((db.answer link.memory text none).1.mapError .database).bind Reply.firstRow,
        link.afterSending db text none) := by
  have hrows := select_runOn db text [] link
  rw [selectOne, Action.runOn_bind, hrows]
  show _ = (((db.answer link.memory text (given [])).1.mapError .database).bind Reply.firstRow, _)
  rcases db.answer link.memory text (given []) with ⟨_ | ⟨columns, _ | rows⟩, memory⟩ <;> rfl

end Link

/-! ## Statements one after another -/

/-- The database takes statements without bindings one after another, from one memory to another. -/
inductive Database.Accepts (db : Database σ) : σ → List String → σ → Prop
  | nil (m : σ) : Accepts db m [] m
  | cons {m m₁ m₂ : σ} {text : String} {rest : List String} {reply : Reply} :
      db.answer m text none = (.ok reply, m₁) → Accepts db m₁ rest m₂ →
      Accepts db m (text :: rest) m₂

/-- Statements are all accepted, or there is a first one that is rejected. -/
theorem Database.accepts_or_rejects (db : Database σ) (m : σ) (statements : List String) :
    (∃ m', db.Accepts m statements m') ∨
      ∃ before rejected later m' text, statements = before ++ rejected :: later ∧
        db.Accepts m before m' ∧ (db.answer m' rejected none).1 = .error text := by
  induction statements generalizing m with
  | nil => exact .inl ⟨m, .nil m⟩
  | cons text rest ih =>
    cases hanswer : db.answer m text none with
    | mk answer m₁ =>
      cases answer with
      | error reason => exact .inr ⟨[], text, rest, m, reason, rfl, .nil m, by rw [hanswer]⟩
      | ok reply =>
        obtain ⟨m', haccepts⟩ | ⟨before, rejected, later, m', reason, rfl, haccepts, hreason⟩ :=
          ih m₁
        · exact .inl ⟨m', .cons hanswer haccepts⟩
        · exact .inr ⟨text :: before, rejected, later, m', reason, rfl,
            .cons hanswer haccepts, hreason⟩

end Db2Client
