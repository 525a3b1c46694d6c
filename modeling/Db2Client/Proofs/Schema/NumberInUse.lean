import Db2Client.Proofs.Schema.ReplyNumber
import Db2Client.Proofs.Schema.StatementText

/-!
# The reply list number in use

Commands are compiled one after another over one state, and one that fails does not end the run.
`compile_addReplyListEntry` and `compile_of_ne` are all that one command does to the number in use.
`number_threaded` says where the number comes from after every step of a run: it is the last number
that was read, or the one that the run began with.

One failure does change it. A number of more than 4300 digits is kept before writing it fails
(`failed_step_changes_number`).
-/

namespace Db2Client.Schema

open Number

variable {σ : Type}

/-! ## One command -/

/-- All that adding an entry does: the query is sent once, a number is kept once it is read, and
what fails before that leaves the number in use as it was. -/
theorem compile_addReplyListEntry (db : Database σ) (bp : Blueprint) {c : Command}
    (hc : c.kind = .addReplyListEntry) (link : Link σ) (k : Option Int) :
    (compile db bp c).runOn ⟨some link, k⟩ =
      match numberAnswered bp (db.answer link.memory replyNumberQuery none).1 with
      | .error e => (.error e, ⟨some (link.afterSending db replyNumberQuery none), k⟩)
      | .ok n =>
        (((writeInteger n).mapError .number).map fun w => [addReplyCall w],
          ⟨some (link.afterSending db replyNumberQuery none), some n⟩) := by
  have hfree : freeNumber bp c = freeNumber bp { kind := .addReplyListEntry } := by
    funext row
    simp only [freeNumber, hc]
  simp only [compile, if_pos hc, addReplyEntry, Compilation.ask, Action.runOn_bind,
    Action.runOn_of, Link.selectOne_runOn, hfree, numberAnswered]
  rcases ((db.answer link.memory replyNumberQuery none).1.mapError Failure.database).bind
    Reply.firstRow with e | row
  · rfl
  · simp only [Except.bind, Action.runOn_ofExcept]
    cases freeNumber bp { kind := .addReplyListEntry } row with
    | error e => rfl
    | ok n =>
      simp only [Compilation.setNumber, Action.runOn_of]
      cases writeInteger n <;> rfl

/-- Without a link there is no server to ask. -/
theorem compile_addReplyListEntry_unlinked (db : Database σ) (bp : Blueprint) {c : Command}
    (hc : c.kind = .addReplyListEntry) (k : Option Int) :
    (compile db bp c).runOn ⟨none, k⟩ = (.error .noConnection, ⟨none, k⟩) := by
  simp only [compile, if_pos hc, addReplyEntry, Compilation.ask, Action.runOn_bind,
    Action.runOn_of]

/-- Every other command leaves the state alone. -/
theorem compile_of_ne (db : Database σ) (bp : Blueprint) {c : Command}
    (hc : c.kind ≠ .addReplyListEntry) (s : Compilation σ) :
    (compile db bp c).runOn s = (c.statements bp s.number, s) := by
  simp only [compile, if_neg hc, Action.runOn_of]

theorem statements_removeReplyListEntry (bp : Blueprint) {c : Command}
    (hc : c.kind = .removeReplyListEntry) (n : Int) :
    c.statements bp (some n) =
      ((writeInteger n).mapError .number).map fun w => [removeReplyCall w] := by
  simp only [Command.statements, hc]

theorem removal_ok_iff (bp : Blueprint) {c : Command} (hc : c.kind = .removeReplyListEntry)
    (k : Option Int) (statements : List String) :
    c.statements bp k = .ok statements ↔
      ∃ n, k = some n ∧ IsWritable n ∧
        statements = ["CALL QSYS2.QCMDEXC('RMVRPYLE SEQNBR(" ++ toString n ++ ")')"] := by
  cases k with
  | none => simp [Command.statements, hc]
  | some n =>
    rw [statements_removeReplyListEntry bp hc]
    by_cases hw : IsWritable n
    · rw [writeInteger_of_isWritable hw]
      simp [removeReplyCall_eq, hw, Except.map, eq_comm]
    · rw [writeInteger_of_not_isWritable hw]
      simp [hw, Except.map]

/-! ## Commands one after another -/

/-- One command of a run: the state it met, its outcome, and the state it left. -/
structure Step (σ : Type) where
  command : Command
  before : Compilation σ
  outcome : Except Failure (List String)
  after : Compilation σ

/-- The steps of a run. A command that fails does not end it. -/
def steps (db : Database σ) (bp : Blueprint) (s : Compilation σ) : List Command → List (Step σ)
  | [] => []
  | c :: rest =>
    let (r, t) := (compile db bp c).runOn s
    ⟨c, s, r, t⟩ :: steps db bp t rest

namespace Step

/-- The number that a step reads: what the server's answer offers, if the step adds an entry. -/
def read? (db : Database σ) (x : Step σ) : Option Int :=
  if x.command.kind = .addReplyListEntry then
    x.before.link.bind fun link => offered? (db.answer link.memory replyNumberQuery none).1
  else none

/-- The step is what compiling its command does. -/
def Compiles (db : Database σ) (bp : Blueprint) (x : Step σ) : Prop :=
  (compile db bp x.command).runOn x.before = (x.outcome, x.after)

theorem read?_of_ne (db : Database σ) {x : Step σ} (hx : x.command.kind ≠ .addReplyListEntry) :
    x.read? db = none := if_neg hx

theorem Compiles.of_ne {db : Database σ} {bp : Blueprint} {x : Step σ} (h : x.Compiles db bp)
    (hx : x.command.kind ≠ .addReplyListEntry) :
    x.outcome = x.command.statements bp x.before.number ∧ x.after = x.before := by
  rw [Compiles, compile_of_ne db bp hx, Prod.mk.injEq] at h
  exact ⟨h.1.symm, h.2.symm⟩

/-- A step that reads a number keeps it, and then fails if it cannot be written. -/
theorem Compiles.of_read {db : Database σ} {bp : Blueprint} {x : Step σ} (h : x.Compiles db bp)
    {n : Int} (hn : x.read? db = some n) :
    x.after.number = some n ∧
      x.outcome = ((writeInteger n).mapError .number).map fun w => [addReplyCall w] := by
  obtain ⟨c, ⟨link, k⟩, outcome, after⟩ := x
  by_cases hc : c.kind = .addReplyListEntry
  · simp only [read?, if_pos hc] at hn
    obtain ⟨l, rfl, hoffer⟩ := Option.bind_eq_some_iff.1 hn
    rw [Compiles, compile_addReplyListEntry db bp hc l k, numberAnswered_ok_iff.2 hoffer,
      Prod.mk.injEq] at h
    obtain ⟨houtcome, rfl⟩ := h
    exact ⟨rfl, houtcome.symm⟩
  · rw [read?_of_ne db hc] at hn
    cases hn

/-- An entry that is added without a number fails before anything is kept. -/
theorem Compiles.of_not_read {db : Database σ} {bp : Blueprint} {x : Step σ}
    (h : x.Compiles db bp) (hx : x.command.kind = .addReplyListEntry) (hn : x.read? db = none) :
    x.after.number = x.before.number ∧ ∃ e, x.outcome = .error e := by
  obtain ⟨c, ⟨_ | link, k⟩, outcome, after⟩ := x
  · rw [Compiles, compile_addReplyListEntry_unlinked db bp hx k, Prod.mk.injEq] at h
    obtain ⟨houtcome, rfl⟩ := h
    exact ⟨rfl, _, houtcome.symm⟩
  · have hnone : offered? (db.answer link.memory replyNumberQuery none).1 = none := by
      rwa [read?, if_pos hx] at hn
    -- The answer offers no number, so it has a fault.
    obtain ⟨m, hm⟩ | ⟨e, he⟩ :=
      offered_or_fault bp.table (db.answer link.memory replyNumberQuery none).1
    · rw [hnone] at hm
      cases hm
    · rw [Compiles, compile_addReplyListEntry db bp hx link k, numberAnswered_of_fault he,
        Prod.mk.injEq] at h
      obtain ⟨houtcome, rfl⟩ := h
      exact ⟨rfl, e, houtcome.symm⟩

/-- **One step.** The number in use is the one read, or else the one that was in use. -/
theorem Compiles.number_eq {db : Database σ} {bp : Blueprint} {x : Step σ}
    (h : x.Compiles db bp) : x.after.number = (x.read? db).or x.before.number := by
  cases hn : x.read? db with
  | some n => exact (h.of_read hn).1
  | none =>
    by_cases hx : x.command.kind = .addReplyListEntry
    · exact (h.of_not_read hx hn).1
    · rw [(h.of_ne hx).2]
      rfl

end Step

/-- A run begins with the step of its first command and goes on from the state that step left. -/
theorem steps_eq_cons {db : Database σ} {bp : Blueprint} {s : Compilation σ} {c : Command}
    {rest : List Command} {x : Step σ} {later : List (Step σ)}
    (h : steps db bp s (c :: rest) = x :: later) :
    x.Compiles db bp ∧ x.command = c ∧ x.before = s ∧ steps db bp x.after rest = later := by
  rw [steps] at h
  obtain ⟨rfl, rfl⟩ := List.cons.inj h
  exact ⟨rfl, rfl, rfl, rfl⟩

theorem compiles_of_steps {db : Database σ} {bp : Blueprint} {commands : List Command}
    {s : Compilation σ} {done later : List (Step σ)} {x : Step σ}
    (h : steps db bp s commands = done ++ x :: later) : x.Compiles db bp := by
  induction done generalizing s commands with
  | nil =>
    cases commands with
    | nil => cases h
    | cons c rest => exact (steps_eq_cons h).1
  | cons y done ih =>
    cases commands with
    | nil => cases h
    | cons c rest => exact ih (steps_eq_cons h).2.2.2

theorem getLast?_or_some (n : Int) (later : List Int) (k : Option Int) :
    later.getLast?.or (some n) = (n :: later).getLast?.or k := by
  rw [List.getLast?_cons]
  cases later.getLast? <;> rfl

/-- **A whole run.** After every step the number in use is the last one read so far, or the one
that the run began with. -/
theorem number_after_steps {db : Database σ} {bp : Blueprint} {commands : List Command}
    {s : Compilation σ} {done later : List (Step σ)} {x : Step σ}
    (h : steps db bp s commands = done ++ x :: later) :
    x.after.number = ((done ++ [x]).filterMap (Step.read? db)).getLast?.or s.number := by
  induction done generalizing s commands with
  | nil =>
    cases commands with
    | nil => cases h
    | cons c rest =>
      obtain ⟨hx, -, rfl, -⟩ := steps_eq_cons h
      rw [hx.number_eq, List.nil_append, List.filterMap_cons]
      cases x.read? db <;> rfl
  | cons y done ih =>
    cases commands with
    | nil => cases h
    | cons c rest =>
      -- The rest of the run starts from the number that the first step left.
      obtain ⟨hy, -, rfl, hrest⟩ := steps_eq_cons h
      rw [ih hrest, hy.number_eq, List.cons_append, List.filterMap_cons]
      cases y.read? db with
      | none => rfl
      | some n => exact getLast?_or_some n _ _

/-- **The number is threaded through a run.** After every step it is the last number read so far.
Only a step that reads a number changes it. An entry is removed exactly when the number in use can
be written, and both calls name the number in use. -/
theorem number_threaded (db : Database σ) (bp : Blueprint) (link : Option (Link σ))
    (k : Option Int) {commands : List Command} {done later : List (Step σ)} {x : Step σ}
    (h : steps db bp ⟨link, k⟩ commands = done ++ x :: later) :
    x.after.number = ((done ++ [x]).filterMap (Step.read? db)).getLast?.or k ∧
    (x.command.kind ≠ .addReplyListEntry → x.after.number = x.before.number) ∧
    (x.command.kind = .addReplyListEntry → x.read? db = none →
      x.after.number = x.before.number ∧ ∃ e, x.outcome = .error e) ∧
    (∀ n, x.read? db = some n →
      x.after.number = some n ∧
      (IsWritable n → x.outcome =
        .ok ["CALL QSYS2.QCMDEXC('ADDRPYLE SEQNBR(" ++ toString n ++
          ") MSGID(CPA32B2) RPY(''I'')')"]) ∧
      (¬ IsWritable n → x.outcome = .error (.number .tooLongToWrite))) ∧
    (x.command.kind = .removeReplyListEntry → ∀ statements,
      x.outcome = .ok statements ↔
        ∃ n, x.before.number = some n ∧ IsWritable n ∧
          statements = ["CALL QSYS2.QCMDEXC('RMVRPYLE SEQNBR(" ++ toString n ++ ")')"]) := by
  have hx : x.Compiles db bp := compiles_of_steps h
  refine ⟨number_after_steps h, fun hne => by rw [(hx.of_ne hne).2], hx.of_not_read, ?_, ?_⟩
  · intro n hn
    obtain ⟨hnumber, houtcome⟩ := hx.of_read hn
    refine ⟨hnumber, fun hw => ?_, fun hw => ?_⟩
    · rw [houtcome, writeInteger_of_isWritable hw, ← addReplyCall_eq]
      rfl
    · rw [houtcome, writeInteger_of_not_isWritable hw]
      rfl
  · intro hremove statements
    -- Removing leaves the state alone, so the number it met is the one in use.
    obtain ⟨houtcome, -⟩ := hx.of_ne (by rw [hremove]; decide)
    rw [houtcome]
    exact removal_ok_iff bp hremove x.before.number statements

/-- The number that is read is still in use after a command that fails, and is the one removed. -/
theorem number_threaded_past_failure :
    ∃ (done : List (Step Unit)) (x : Step Unit),
      steps (answering (.integer 7)) { table := "t" } ⟨some (Link.fresh ()), none⟩
          [{ kind := .addReplyListEntry }, { kind := .unknown "x" },
            { kind := .removeReplyListEntry }] = done ++ x :: [] ∧
      x.after.number = some 7 ∧
      x.outcome = .ok ["CALL QSYS2.QCMDEXC('RMVRPYLE SEQNBR(7)')"] := by
  obtain ⟨done, x, h, hkind, hread⟩ : ∃ (done : List (Step Unit)) (x : Step Unit),
      steps (answering (.integer 7)) { table := "t" } ⟨some (Link.fresh ()), none⟩
          [{ kind := .addReplyListEntry }, { kind := .unknown "x" },
            { kind := .removeReplyListEntry }] = done ++ x :: [] ∧
      x.command.kind = .removeReplyListEntry ∧
      ((done ++ [x]).filterMap (Step.read? (answering (.integer 7)))).getLast?.or none =
        some 7 := ⟨[_, _], _, rfl, rfl, rfl⟩
  obtain ⟨hnumber, hframe, -, -, hremove⟩ := number_threaded _ _ _ _ h
  rw [hread] at hnumber
  refine ⟨done, x, h, hnumber, (hremove hkind _).2 ⟨7, ?_, ?_, rfl⟩⟩
  · rw [← hframe (by rw [hkind]; decide), hnumber]
  · exact isWritable_of_natAbs_le (by decide)

/-- A step that fails can change the number, and then removing the entry fails as well: the number
is kept before it turns out too long to write. -/
theorem failed_step_changes_number :
    ∃ x y : Step Unit,
      steps (answering longNumber) { table := "t" } ⟨some (Link.fresh ()), some 7⟩
          [{ kind := .addReplyListEntry }, { kind := .removeReplyListEntry }] = [x, y] ∧
      (∃ e, x.outcome = .error e) ∧ x.before.number = some 7 ∧ x.after.number ≠ some 7 ∧
      y.before.number ≠ none ∧ ∃ e, y.outcome = .error e := by
  obtain ⟨x, y, h⟩ : ∃ x y : Step Unit,
      steps (answering longNumber) { table := "t" } ⟨some (Link.fresh ()), some 7⟩
        [{ kind := .addReplyListEntry }, { kind := .removeReplyListEntry }] = [x, y] :=
    ⟨_, _, rfl⟩
  obtain ⟨hx, hxcommand, hxbefore, hrest⟩ := steps_eq_cons h
  obtain ⟨hy, hycommand, hybefore, -⟩ := steps_eq_cons hrest
  have hread : x.read? (answering longNumber) = some ((Nat.pow 10 digitLimit : Nat) : Int) := by
    rw [Step.read?, if_pos (by rw [hxcommand]), hxbefore, Option.bind_some, offered?_answering,
      toInteger_longNumber]
    rfl
  obtain ⟨hnumber, hxoutcome⟩ := hx.of_read hread
  -- The number is in use although its call could not be written.
  rw [writeInteger_of_not_isWritable not_isWritable_longNumber] at hxoutcome
  have hyoutcome := (hy.of_ne (by rw [hycommand]; decide)).1
  refine ⟨x, y, h, ⟨_, hxoutcome⟩, by rw [hxbefore], fun hseven => ?_, ?_, ?_⟩
  · rw [hnumber] at hseven
    refine not_isWritable_longNumber ?_
    rw [Option.some.inj hseven]
    exact isWritable_of_natAbs_le (by decide)
  · rw [hybefore, hnumber]
    exact Option.some_ne_none _
  · cases hstatements : y.outcome with
    | error e => exact ⟨e, rfl⟩
    | ok statements =>
      rw [hyoutcome, hybefore, hnumber, removal_ok_iff _ (by rw [hycommand])] at hstatements
      obtain ⟨n, hn, hw, -⟩ := hstatements
      rw [← Option.some.inj hn] at hw
      exact absurd hw not_isWritable_longNumber

end Db2Client.Schema
