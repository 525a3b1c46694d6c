import Db2Client.Proofs.Schema.Compilation
import Db2Client.Session.State

/-!
# Running a blueprint

A blueprint is compiled before any of its statements is sent, and then the statements are sent one
after another up to the first that the database rejects. The session itself stays as it was; only
its link is used.

* `compile_of_asksBack`, `compile_of_not_asksBack`: compiling sends the reply list query or
  nothing.
* `runAll_of_accepts`, `runAll_of_rejects`: all that running statements does.
* `runBlueprint_runs_prefix`: the two together.
-/

namespace Db2Client.Session

open Schema

variable {σ : Type}

/-! ## Statements -/

theorem statement_runOn (db : Database σ) (text : String) (s : Session σ) :
    (statement db text []).runOn s =
      (((db.answer s.link.memory text none).1.mapError .database).map fun _ => (),
        { s with link := s.link.afterSending db text none }) := by
  rw [statement, onLink, Action.onPart, Action.runOn_of, Link.statement_runOn]

/-- Every statement that the database accepts is sent once, in order. -/
theorem runAll_of_accepts {db : Database σ} {m m' : σ} {statements : List String}
    (h : db.Accepts m statements m') (s : Session σ) (hs : s.link.memory = m) :
    (runAll db statements).runOn s =
      (.ok (), { s with link := { s.link with
        memory := m', sent := s.link.sent ++ statements.map fun text => ⟨text, none⟩ } }) := by
  induction h generalizing s with
  | nil m =>
    subst hs
    rw [List.map_nil, List.append_nil]
    rfl
  | cons hanswer _ ih =>
    subst hs
    rw [runAll, Action.runOn_bind, statement_runOn, hanswer]
    dsimp only [mapError_ok, Except.map]
    rw [ih _ (congrArg Prod.snd hanswer)]
    simp [Link.afterSending]

/-- Nothing is sent after the first statement that the database rejects. -/
theorem runAll_of_rejects {db : Database σ} {m m' : σ} {before later : List String}
    {rejected text : String} (h : db.Accepts m before m')
    (hrejected : (db.answer m' rejected none).1 = .error text) (s : Session σ)
    (hs : s.link.memory = m) :
    (runAll db (before ++ rejected :: later)).runOn s =
      (.error (.database text), { s with link := { s.link with
        memory := (db.answer m' rejected none).2
        sent := s.link.sent ++ (before ++ [rejected]).map fun text => ⟨text, none⟩ } }) := by
  induction h generalizing s with
  | nil m =>
    subst hs
    rw [List.nil_append, runAll, Action.runOn_bind, statement_runOn, hrejected]
    rfl
  | cons hanswer _ ih =>
    subst hs
    rw [List.cons_append, runAll, Action.runOn_bind, statement_runOn, hanswer]
    dsimp only [mapError_ok, Except.map]
    rw [ih hrejected _ (congrArg Prod.snd hanswer)]
    simp [Link.afterSending]

theorem runAll_frame (db : Database σ) (statements : List String) (s : Session σ) :
    ∃ link, ((runAll db statements).runOn s).2 = { s with link } := by
  obtain ⟨m, h⟩ | ⟨before, rejected, later, m, text, rfl, h, hrejected⟩ :=
    db.accepts_or_rejects s.link.memory statements
  · rw [runAll_of_accepts h s rfl]
    exact ⟨_, rfl⟩
  · rw [runAll_of_rejects h hrejected s rfl]
    exact ⟨_, rfl⟩

/-! ## Compiling over the session's link -/

theorem compile_of_asksBack (db : Database σ) {bp : Blueprint} (hbp : bp.IsUnanswered)
    (h : bp.AsksBack) (s : Session σ) :
    ((compile db bp).runOn s).2 =
      { s with link := s.link.afterSending db replyNumberQuery none } := by
  rw [compile, Action.runOn_of, toSql_runOn_asking db hbp h]
  cases numberAnswered bp (db.answer s.link.memory replyNumberQuery none).1 <;> rfl

theorem compile_of_not_asksBack (db : Database σ) {bp : Blueprint} (hbp : bp.IsUnanswered)
    (h : ¬ bp.AsksBack) (s : Session σ) : ((compile db bp).runOn s).2 = s := by
  rw [compile, Action.runOn_of, toSql_runOn db hbp h]
  rfl

theorem compile_frame (db : Database σ) (bp : Blueprint) (s : Session σ) :
    ∃ link, ((compile db bp).runOn s).2 = { s with link } := ⟨_, rfl⟩

/-! ## Blueprints -/

theorem runBlueprint_of_error {db : Database σ} {bp : Blueprint} {s mid : Session σ}
    {e : Failure} (h : (compile db bp).runOn s = (.error e, mid)) :
    (runBlueprint db bp).runOn s = (.error e, mid) :=
  Action.runOn_bind_error h

theorem runBlueprint_of_ok {db : Database σ} {bp : Blueprint} {s mid : Session σ}
    {statements : List String} (h : (compile db bp).runOn s = (.ok statements, mid)) :
    (runBlueprint db bp).runOn s =
      (((runAll db statements).runOn mid).1.map fun _ => statements,
        ((runAll db statements).runOn mid).2) := by
  rw [runBlueprint, Action.runOn_bind_ok h, Action.runOn_bind]
  rcases (runAll db statements).runOn mid with ⟨_ | _, after⟩ <;> rfl

theorem runBlueprint_frame (db : Database σ) (bp : Blueprint) (s : Session σ) :
    ∃ link, ((runBlueprint db bp).runOn s).2 = { s with link } := by
  obtain ⟨link, hmid⟩ := compile_frame db bp s
  rcases h : (compile db bp).runOn s with ⟨e | statements, mid⟩
  · rw [h] at hmid
    rw [runBlueprint_of_error h]
    exact ⟨link, hmid⟩
  · rw [h] at hmid
    obtain ⟨link', hafter⟩ := runAll_frame db statements mid
    rw [runBlueprint_of_ok h]
    refine ⟨link', ?_⟩
    dsimp only at hmid ⊢
    rw [hafter, hmid]

/-- **Running a blueprint.** Compiling sends the reply list query when a column is dropped or
renamed, and nothing otherwise. When it fails nothing else is sent. When it succeeds the statements
are sent in order and without bindings: all of them when the database accepts all, and up to the
first that it rejects otherwise. The schemas stay as they were. -/
theorem runBlueprint_runs_prefix (db : Database σ) {bp : Blueprint} (hbp : bp.IsUnanswered)
    {s mid after : Session σ} {compiled r : Except Failure (List String)}
    (hcompile : (compile db bp).runOn s = (compiled, mid))
    (hrun : (runBlueprint db bp).runOn s = (r, after)) :
    (after.currentSchema = s.currentSchema ∧ after.defaultSchema = s.defaultSchema) ∧
    (bp.AsksBack → mid.link.sent = s.link.sent ++ [⟨replyNumberQuery, none⟩]) ∧
    (¬ bp.AsksBack → mid.link.sent = s.link.sent) ∧
    (∀ e, compiled = .error e → r = .error e ∧ after.link.sent = mid.link.sent) ∧
    (∀ statements m, compiled = .ok statements → db.Accepts mid.link.memory statements m →
      r = .ok statements ∧
      after.link.sent = mid.link.sent ++ statements.map fun text => ⟨text, none⟩) ∧
    (∀ before rejected later m text, compiled = .ok (before ++ rejected :: later) →
      db.Accepts mid.link.memory before m → (db.answer m rejected none).1 = .error text →
      r = .error (.database text) ∧
      after.link.sent = mid.link.sent ++ (before ++ [rejected]).map fun text => ⟨text, none⟩) := by
  refine ⟨?_, fun hasks => ?_, fun hasks => ?_, ?_, ?_, ?_⟩
  -- Neither compiling nor running changes anything but the link.
  · obtain ⟨link, hafter⟩ := runBlueprint_frame db bp s
    rw [hrun] at hafter
    dsimp only at hafter
    rw [hafter]
    exact ⟨rfl, rfl⟩
  · have hmid := compile_of_asksBack db hbp hasks s
    rw [hcompile] at hmid
    dsimp only at hmid
    rw [hmid]
    rfl
  · have hmid := compile_of_not_asksBack db hbp hasks s
    rw [hcompile] at hmid
    dsimp only at hmid
    rw [hmid]
  · rintro e rfl
    rw [runBlueprint_of_error hcompile, Prod.mk.injEq] at hrun
    obtain ⟨rfl, rfl⟩ := hrun
    exact ⟨rfl, rfl⟩
  · rintro statements m rfl haccepts
    rw [runBlueprint_of_ok hcompile, runAll_of_accepts haccepts mid rfl, Prod.mk.injEq] at hrun
    obtain ⟨rfl, rfl⟩ := hrun
    exact ⟨rfl, rfl⟩
  · rintro before rejected later m text rfl haccepts hrejected
    rw [runBlueprint_of_ok hcompile, runAll_of_rejects haccepts hrejected mid rfl,
      Prod.mk.injEq] at hrun
    obtain ⟨rfl, rfl⟩ := hrun
    exact ⟨rfl, rfl⟩

/-- A database that takes a number of statements and rejects every later one. -/
def limited : Database Nat where
  answer m _ _ :=
    match m with
    | 0 => (.error "locked", 0)
    | m + 1 => (.ok { columns := [], rows := .ok [] }, m)

/-- Of two statements the second is rejected, and the third is never sent. -/
theorem runBlueprint_stops_at_rejected :
    ∃ (bp : Blueprint) (s after : Session Nat) (first second third : String),
      ((compile limited bp).runOn s).1 = .ok [first, second, third] ∧
      (runBlueprint limited bp).runOn s = (.error (.database "locked"), after) ∧
      after.link.sent = s.link.sent ++ [⟨first, none⟩, ⟨second, none⟩] := by
  let bp : Blueprint := { table := "t", commands := [{ kind := .dropPrimary },
    { kind := .renameTable, renameTo := .text "u" }, { kind := .dropTable }] }
  let s : Session Nat := {
    config := { driver := "db2_ibmi_odbc" }
    variant := ⟨"db2_ibmi_odbc", .odbc, .db2, .newTable, [], true⟩
    defaultSchema := "APP"
    currentSchema := "APP"
    link := Link.fresh 1 }
  have hbp : bp.IsUnanswered := by
    intro c hc
    simp only [bp, List.mem_cons, List.not_mem_nil, or_false] at hc
    obtain rfl | rfl | rfl := hc <;> decide
  have hquiet : ¬ bp.AsksBack := by
    rw [bp.asksBack_iff]
    decide
  obtain ⟨first, second, third, hcompile⟩ : ∃ first second third,
      (compile limited bp).runOn s = (.ok [first, second, third], s) := by
    rw [compile, Action.runOn_of, toSql_runOn limited hbp hquiet]
    exact ⟨_, _, _, rfl⟩
  rcases hrun : (runBlueprint limited bp).runOn s with ⟨r, after⟩
  obtain ⟨-, -, -, -, -, hrejected⟩ := runBlueprint_runs_prefix limited hbp hcompile hrun
  obtain ⟨rfl, hsent⟩ := hrejected [first] second [third] 0 "locked" rfl (.cons rfl (.nil 0)) rfl
  exact ⟨bp, s, after, first, second, third, by rw [hcompile], hrun, hsent⟩

end Db2Client.Session
