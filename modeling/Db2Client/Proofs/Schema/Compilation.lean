import Mathlib.Data.List.Forall2
import Db2Client.Proofs.Schema.NumberInUse
import Db2Client.Proofs.Schema.Recording

/-!
# Compiling a blueprint

The statements of a blueprint are those of its columns and commands, and they stand between
brackets when a column is dropped or renamed. The state matters for the brackets only:

* `toSql_runOn`: without brackets compiling is a function of the blueprint and asks nothing.
* `toSql_runOn_asking`: with brackets the server is asked first, and what follows is a function of
  its answer.

`IsBody` says what stands between the brackets, and `toSql_bracketed` puts the two together.
-/

namespace Db2Client.Schema

open Number Sql

variable {σ : Type}

/-! ## Commands that ask nothing -/

/-- The statements of commands one after another, while one number is in use. -/
def statementsAll (bp : Blueprint) (number : Option Int) :
    List Command → Except Failure (List String)
  | [] => .ok []
  | c :: rest => do
    let first ← c.statements bp number
    let more ← statementsAll bp number rest
    return first ++ more

theorem statementsAll_cons_ok {bp : Blueprint} {k : Option Int} {c : Command}
    {rest : List Command} {statements : List String}
    (h : statementsAll bp k (c :: rest) = .ok statements) :
    ∃ first more, c.statements bp k = .ok first ∧ statementsAll bp k rest = .ok more ∧
      statements = first ++ more := by
  obtain ⟨first, hfirst, h⟩ := bind_eq_ok h
  obtain ⟨more, hmore, h⟩ := bind_eq_ok h
  exact ⟨first, more, hfirst, hmore, (Except.ok.inj h).symm⟩

theorem statementsAll_append (bp : Blueprint) (k : Option Int) (xs ys : List Command) :
    statementsAll bp k (xs ++ ys) =
      (statementsAll bp k xs).bind fun first => (statementsAll bp k ys).map (first ++ ·) := by
  induction xs with
  | nil =>
    rw [List.nil_append, statementsAll]
    cases statementsAll bp k ys <;> rfl
  | cons c xs ih =>
    rw [List.cons_append, statementsAll, statementsAll, ih]
    cases c.statements bp k with
    | error e => rfl
    | ok first =>
      cases statementsAll bp k xs with
      | error e => rfl
      | ok more =>
        cases statementsAll bp k ys with
        | error e => rfl
        | ok last =>
          simp only [Except.bind, Except.map, bind, pure, Except.pure, List.append_assoc]

/-- Commands that ask nothing leave the state alone. -/
theorem compileAll_runOn (db : Database σ) (bp : Blueprint) {commands : List Command}
    (h : ∀ c ∈ commands, c.kind ≠ .addReplyListEntry) (s : Compilation σ) :
    (compileAll db bp commands).runOn s = (statementsAll bp s.number commands, s) := by
  induction commands with
  | nil => rfl
  | cons c rest ih =>
    obtain ⟨hc, hrest⟩ := List.forall_mem_cons.1 h
    rw [compileAll, statementsAll, Action.runOn_bind, compile_of_ne db bp hc]
    cases c.statements bp s.number with
    | error e => rfl
    | ok first =>
      dsimp only
      rw [Action.runOn_bind, ih hrest]
      cases statementsAll bp s.number rest <;> rfl

/-! ## Brackets -/

namespace Blueprint

/-- The commands without brackets: the implied addition of columns, then what was recorded. -/
def unbracketed (bp : Blueprint) : List Command :=
  if !bp.columns.isEmpty && !bp.creating then { kind := .addColumn } :: bp.commands
  else bp.commands

/-- A command drops or renames a column, so that IBM i would ask back. -/
def AsksBack (bp : Blueprint) : Prop :=
  ∃ c ∈ bp.commands, c.kind = .dropColumn ∨ c.kind = .renameColumn

/-- No command of the blueprint puts an entry on the reply list. -/
def IsUnanswered (bp : Blueprint) : Prop := ∀ c ∈ bp.commands, c.kind ≠ .addReplyListEntry

theorem mem_unbracketed {bp : Blueprint} {c : Command} (h : c ∈ bp.unbracketed) :
    c = { kind := .addColumn } ∨ c ∈ bp.commands := by
  unfold unbracketed at h
  split at h
  · exact List.mem_cons.1 h
  · exact .inr h

theorem mem_unbracketed_of_mem {bp : Blueprint} {c : Command} (h : c ∈ bp.commands) :
    c ∈ bp.unbracketed := by
  unfold unbracketed
  split
  · exact List.mem_cons_of_mem _ h
  · exact h

theorem IsUnanswered.unbracketed {bp : Blueprint} (h : bp.IsUnanswered) :
    ∀ c ∈ bp.unbracketed, c.kind ≠ .addReplyListEntry := by
  intro c hc
  obtain rfl | hc := mem_unbracketed hc
  · decide
  · exact h c hc

theorem IsUnanswered.any_eq_false {bp : Blueprint} (h : bp.IsUnanswered) :
    bp.unbracketed.any (fun c => c.kind = .addReplyListEntry) = false := by
  rw [List.any_eq_false]
  exact fun c hc => by simpa using h.unbracketed c hc

theorem asksBack_iff (bp : Blueprint) :
    bp.AsksBack ↔ bp.unbracketed.any (fun c => c.kind.asksBack) = true := by
  rw [List.any_eq_true]
  constructor
  · rintro ⟨c, hc, hkind | hkind⟩
    · exact ⟨c, mem_unbracketed_of_mem hc, by rw [hkind]; rfl⟩
    · exact ⟨c, mem_unbracketed_of_mem hc, by rw [hkind]; rfl⟩
  · rintro ⟨c, hc, hasks⟩
    -- The implied addition of columns does not ask back.
    obtain rfl | hc := mem_unbracketed hc
    · cases hasks
    · refine ⟨c, hc, ?_⟩
      unfold CommandKind.asksBack at hasks
      split at hasks
      · exact .inl ‹_›
      · exact .inr ‹_›
      · cases hasks

theorem toCommands_of_asksBack {bp : Blueprint} (hbp : bp.IsUnanswered) (h : bp.AsksBack) :
    bp.toCommands =
      { kind := .addReplyListEntry } :: { kind := .changeJob } ::
        (bp.unbracketed ++ [{ kind := .removeReplyListEntry }]) := by
  show sequenced bp.unbracketed = _
  rw [sequenced, hbp.any_eq_false, if_neg Bool.false_ne_true, if_pos (bp.asksBack_iff.1 h)]

theorem toCommands_of_not_asksBack {bp : Blueprint} (hbp : bp.IsUnanswered)
    (h : ¬ bp.AsksBack) : bp.toCommands = bp.unbracketed := by
  show sequenced bp.unbracketed = _
  rw [sequenced, hbp.any_eq_false, if_neg Bool.false_ne_true,
    if_neg (mt bp.asksBack_iff.2 h)]

/-- The statements of a blueprint between brackets that name a number. -/
def bracketed (bp : Blueprint) (n : Int) : Except Failure (List String) := do
  let written ← (writeInteger n).mapError .number
  let body ← statementsAll bp (some n) bp.unbracketed
  return [addReplyCall written, changeJobCall] ++ body ++ [removeReplyCall written]

theorem bracketed_of_not_isWritable (bp : Blueprint) {n : Int} (h : ¬ IsWritable n) :
    bp.bracketed n = .error (.number .tooLongToWrite) := by
  rw [bracketed, writeInteger_of_not_isWritable h]
  rfl

theorem bracketed_of_isWritable (bp : Blueprint) {n : Int} (h : IsWritable n) :
    bp.bracketed n =
      (statementsAll bp (some n) bp.unbracketed).map fun body =>
        [addReplyCall (integerText n), changeJobCall] ++ body ++
          [removeReplyCall (integerText n)] := by
  rw [bracketed, writeInteger_of_isWritable h]
  cases statementsAll bp (some n) bp.unbracketed <;> rfl

theorem bracketed_ok {bp : Blueprint} {n : Int} {statements : List String}
    (h : bp.bracketed n = .ok statements) :
    ∃ body, statementsAll bp (some n) bp.unbracketed = .ok body ∧
      statements = [addReplyCall (integerText n), changeJobCall] ++ body ++
        [removeReplyCall (integerText n)] := by
  by_cases hw : IsWritable n
  · rw [bracketed_of_isWritable bp hw] at h
    obtain ⟨body, hbody, rfl⟩ := map_eq_ok h
    exact ⟨body, hbody, rfl⟩
  · rw [bracketed_of_not_isWritable bp hw] at h
    cases h

end Blueprint

/-- What follows the addition of an entry with a number that can be written. -/
theorem statementsAll_closing (bp : Blueprint) (commands : List Command) {n : Int}
    (h : IsWritable n) :
    statementsAll bp (some n)
        ({ kind := .changeJob } :: (commands ++ [{ kind := .removeReplyListEntry }])) =
      (statementsAll bp (some n) commands).map fun body =>
        changeJobCall :: (body ++ [removeReplyCall (integerText n)]) := by
  have hremove : statementsAll bp (some n) [{ kind := .removeReplyListEntry }] =
      .ok [removeReplyCall (integerText n)] := by
    rw [statementsAll, statements_removeReplyListEntry bp rfl, writeInteger_of_isWritable h]
    rfl
  rw [statementsAll, statementsAll_append, hremove]
  cases statementsAll bp (some n) commands <;> rfl

/-- **Without brackets.** The statements are those of the commands, and nothing is asked. -/
theorem toSql_runOn (db : Database σ) {bp : Blueprint} (hbp : bp.IsUnanswered)
    (h : ¬ bp.AsksBack) (s : Compilation σ) :
    (bp.toSql db).runOn s = (statementsAll bp s.number bp.unbracketed, s) := by
  rw [Blueprint.toSql, Blueprint.toCommands_of_not_asksBack hbp h,
    compileAll_runOn db bp hbp.unbracketed]

/-- **With brackets.** The server is asked once, before anything is compiled. -/
theorem toSql_runOn_asking (db : Database σ) {bp : Blueprint} (hbp : bp.IsUnanswered)
    (h : bp.AsksBack) (link : Link σ) (k : Option Int) :
    (bp.toSql db).runOn ⟨some link, k⟩ =
      match numberAnswered bp (db.answer link.memory replyNumberQuery none).1 with
      | .error e => (.error e, ⟨some (link.afterSending db replyNumberQuery none), k⟩)
      | .ok n => (bp.bracketed n, ⟨some (link.afterSending db replyNumberQuery none), some n⟩) := by
  -- Only the first command asks. What stands behind it leaves the number in use alone.
  have hquiet : ∀ c ∈ ({ kind := .changeJob } : Command) ::
      (bp.unbracketed ++ [{ kind := .removeReplyListEntry }]), c.kind ≠ .addReplyListEntry := by
    refine List.forall_mem_cons.2 ⟨by decide, List.forall_mem_append.2 ⟨hbp.unbracketed, ?_⟩⟩
    exact List.forall_mem_singleton.2 (by decide)
  rw [Blueprint.toSql, Blueprint.toCommands_of_asksBack hbp h, compileAll, Action.runOn_bind,
    compile_addReplyListEntry db bp rfl]
  cases numberAnswered bp (db.answer link.memory replyNumberQuery none).1 with
  | error e => rfl
  | ok n =>
    dsimp only
    by_cases hw : IsWritable n
    · rw [writeInteger_of_isWritable hw, Blueprint.bracketed_of_isWritable bp hw]
      dsimp only [mapError_ok, Except.map]
      rw [Action.runOn_bind, compileAll_runOn db bp hquiet, statementsAll_closing bp _ hw]
      cases statementsAll bp (some n) bp.unbracketed <;> rfl
    · rw [writeInteger_of_not_isWritable hw, Blueprint.bracketed_of_not_isWritable bp hw]
      rfl

theorem toSql_runOn_unlinked (db : Database σ) {bp : Blueprint} (hbp : bp.IsUnanswered)
    (h : bp.AsksBack) (k : Option Int) :
    (bp.toSql db).runOn ⟨none, k⟩ = (.error .noConnection, ⟨none, k⟩) := by
  rw [Blueprint.toSql, Blueprint.toCommands_of_asksBack hbp h, compileAll, Action.runOn_bind,
    compile_addReplyListEntry_unlinked db bp rfl]

/-! ## Between the brackets -/

namespace Blueprint

/-- The one statement of a command is what it says, whatever number is in use. -/
structure Renders (bp : Blueprint) (c : Command) (statement : String) : Prop where
  statements : ∀ number, c.statements bp number = .ok [statement]
  spells : bp.Spells c statement

/-- The columns are added to a table that is there already. -/
def AddsColumns (bp : Blueprint) : Prop :=
  bp.columns ≠ [] ∧ ∀ c ∈ bp.commands, c.kind ≠ .createTable

/-- The statements between the brackets: one for each column to add, in order, and then one for
each command, in order. -/
structure IsBody (bp : Blueprint) (added recorded : List String) : Prop where
  adds : bp.AddsColumns → ∃ ds, bp.Defines ds ∧
    added = ds.map fun d => "alter table " ++ Spelling.table bp.table ++ " add " ++ d
  addsNothing : ¬ bp.AddsColumns → added = []
  records : List.Forall₂ bp.Renders bp.commands recorded

theorem addsColumns_iff (bp : Blueprint) :
    bp.AddsColumns ↔ (!bp.columns.isEmpty && !bp.creating) = true := by
  simp [AddsColumns, creating]

end Blueprint

/-- A command that edits record has at most one statement, whatever number is in use. -/
theorem statements_eq_map (bp : Blueprint) {c : Command} (hc : c.kind.isRecorded = true) :
    ∃ r : Except Failure String, ∀ number, c.statements bp number = r.map ([·]) := by
  obtain ⟨kind, columns, index, systemIndex, foreignTable, references, onDelete, onUpdate,
    renameFrom, renameTo, label, systemCommand⟩ := c
  cases kind with
  | createTable =>
    refine ⟨(definitions bp.table bp.columns).map (createStatement bp), fun number => ?_⟩
    show (definitions bp.table bp.columns).map (fun ds => [createStatement bp ds]) = _
    cases definitions bp.table bp.columns <;> rfl
  | dropTable | dropTableIfExists | renameColumn | dropPrimary | renameTable | label
  | rawSystemCommand =>
    exact ⟨.ok _, fun _ => rfl⟩
  | dropColumn | addIndex | addPrimary | addUnique | addForeign | dropIndex | dropUnique
  | dropForeign =>
    exact ⟨_, fun _ => rfl⟩
  | addColumn | addReplyListEntry | removeReplyListEntry | changeJob | unknown tag => cases hc

theorem renders_of_statements {bp : Blueprint} {c : Command} (hc : c.kind.isRecorded = true)
    {k : Option Int} {statements : List String} (h : c.statements bp k = .ok statements) :
    ∃ s, statements = [s] ∧ bp.Renders c s := by
  obtain ⟨r, hr⟩ := statements_eq_map bp hc
  obtain ⟨s, rfl, hs⟩ := spells_of_statements hc h
  rw [hr] at h
  obtain ⟨t, rfl, ht⟩ := map_eq_ok h
  obtain rfl : t = s := List.singleton_inj.1 ht
  exact ⟨t, rfl, hr, hs⟩

theorem forall₂_of_statementsAll {bp : Blueprint} {k : Option Int} {commands : List Command}
    (hrec : ∀ c ∈ commands, c.kind.isRecorded = true) {statements : List String}
    (h : statementsAll bp k commands = .ok statements) :
    List.Forall₂ bp.Renders commands statements := by
  induction commands generalizing statements with
  | nil =>
    cases h
    exact .nil
  | cons c rest ih =>
    obtain ⟨hc, hrest⟩ := List.forall_mem_cons.1 hrec
    obtain ⟨first, more, hfirst, hmore, rfl⟩ := statementsAll_cons_ok h
    obtain ⟨s, rfl, hs⟩ := renders_of_statements hc hfirst
    exact .cons hs (ih hrest hmore)

/-- What compiles without brackets is a body. -/
theorem isBody_of_statementsAll {bp : Blueprint}
    (hrec : ∀ c ∈ bp.commands, c.kind.isRecorded = true) {k : Option Int} {body : List String}
    (h : statementsAll bp k bp.unbracketed = .ok body) :
    ∃ added recorded, body = added ++ recorded ∧ bp.IsBody added recorded := by
  unfold Blueprint.unbracketed at h
  split at h
  · rename_i hadds
    obtain ⟨added, recorded, hadded, hrecorded, rfl⟩ := statementsAll_cons_ok h
    obtain ⟨ds, hds, rfl⟩ := map_eq_ok hadded
    have hadd : (fun d => alterTable bp ("add " ++ d)) =
        fun d => "alter table " ++ Spelling.table bp.table ++ " add " ++ d :=
      funext (alterTable_add bp)
    rw [hadd]
    have hdefines : bp.Defines ds := Blueprint.forall₂_of_definitions hds
    refine ⟨_, recorded, rfl, fun _ => ⟨ds, hdefines, rfl⟩, fun hnot => ?_,
      forall₂_of_statementsAll hrec hrecorded⟩
    exact absurd (bp.addsColumns_iff.2 hadds) hnot
  · rename_i hadds
    exact ⟨[], body, rfl, fun hadds' => absurd (bp.addsColumns_iff.1 hadds') hadds, fun _ => rfl,
      forall₂_of_statementsAll hrec h⟩

theorem Blueprint.Reached.isUnanswered {bp : Blueprint} (h : bp.Reached Edit.IsGuided) :
    bp.IsUnanswered := by
  intro c hc hkind
  have hrec := h.isRecorded c hc
  rw [hkind] at hrec
  cases hrec

/-- **Compiling a blueprint.** Whenever statements come out, they are one for each column to add and
one for each command, in order. When a column is dropped or renamed they stand between an answer
put on the reply list and its removal. Both name the number that the server offered, and the server
was asked once. -/
theorem toSql_bracketed (db : Database σ) {bp : Blueprint} (hbp : bp.Reached Edit.IsGuided)
    {link : Option (Link σ)} {statements : List String} {after : Compilation σ}
    (h : (bp.toSql db).runOn { link } = (.ok statements, after)) :
    ∃ added recorded, bp.IsBody added recorded ∧
      (bp.AsksBack → ∃ l n, link = some l ∧
        offered? (db.answer l.memory replyNumberQuery none).1 = some n ∧
        statements =
          ["CALL QSYS2.QCMDEXC('ADDRPYLE SEQNBR(" ++ toString n ++
              ") MSGID(CPA32B2) RPY(''I'')')",
            "CALL QSYS2.QCMDEXC('CHGJOB INQMSGRPY(*SYSRPYL)')"] ++
          (added ++ recorded) ++
          ["CALL QSYS2.QCMDEXC('RMVRPYLE SEQNBR(" ++ toString n ++ ")')"] ∧
        after.link = some (l.afterSending db replyNumberQuery none)) ∧
      (¬ bp.AsksBack → statements = added ++ recorded ∧ after.link = link) := by
  by_cases hasks : bp.AsksBack
  · obtain _ | l := link
    · rw [toSql_runOn_unlinked db hbp.isUnanswered hasks, Prod.mk.injEq] at h
      cases h.1
    · rw [toSql_runOn_asking db hbp.isUnanswered hasks] at h
      -- The answer comes first, and nothing behind it depends on the server.
      cases hanswer : numberAnswered bp (db.answer l.memory replyNumberQuery none).1 with
      | error e =>
        rw [hanswer, Prod.mk.injEq] at h
        cases h.1
      | ok n =>
        rw [hanswer, Prod.mk.injEq] at h
        obtain ⟨hok, rfl⟩ := h
        obtain ⟨body, hbody, rfl⟩ := Blueprint.bracketed_ok hok
        obtain ⟨added, recorded, rfl, hsplit⟩ := isBody_of_statementsAll hbp.isRecorded hbody
        have hoffered := numberAnswered_ok_iff.1 hanswer
        rw [addReplyCall_eq, changeJobCall_eq, removeReplyCall_eq]
        exact ⟨added, recorded, hsplit, fun _ => ⟨l, n, rfl, hoffered, rfl, rfl⟩,
          fun hnot => absurd hasks hnot⟩
  · rw [toSql_runOn db hbp.isUnanswered hasks, Prod.mk.injEq] at h
    obtain ⟨hok, rfl⟩ := h
    obtain ⟨added, recorded, rfl, hsplit⟩ := isBody_of_statementsAll hbp.isRecorded hok
    exact ⟨added, recorded, hsplit, fun h => absurd h hasks, fun _ => ⟨rfl, rfl⟩⟩

/-- A column is added and another one dropped. -/
def addingAndDropping : Blueprint :=
  (Blueprint.applyAll { table := "t" } [.stringColumn "a" 20, .dropColumns [.text "b"]]).2

/-- Number 7 is free, so both brackets name it. -/
theorem toSql_bracketed_drop :
    addingAndDropping.Reached Edit.IsGuided ∧
    ((addingAndDropping.toSql (answering (.integer 7))).runOn { link := some (Link.fresh ()) }).1 =
      .ok ["CALL QSYS2.QCMDEXC('ADDRPYLE SEQNBR(7) MSGID(CPA32B2) RPY(''I'')')",
        "CALL QSYS2.QCMDEXC('CHGJOB INQMSGRPY(*SYSRPYL)')",
        "alter table \"t\" add a varchar(20) not null", "alter table \"t\" drop b",
        "CALL QSYS2.QCMDEXC('RMVRPYLE SEQNBR(7)')"] ∧
    ∃ added recorded, addingAndDropping.IsBody added recorded ∧
      added ++ recorded =
        ["alter table \"t\" add a varchar(20) not null", "alter table \"t\" drop b"] := by
  have hreached : addingAndDropping.Reached Edit.IsGuided :=
    .of_edits "t" (by simp [Edit.stringColumn, Edit.IsGuided])
  have hasks : addingAndDropping.AsksBack := ⟨_, .head _, .inl rfl⟩
  have hseven : offered? ((answering (.integer 7)).answer (Link.fresh ()).memory
      replyNumberQuery none).1 = some 7 := rfl
  have hbody : statementsAll addingAndDropping (some 7) addingAndDropping.unbracketed =
      .ok ["alter table \"t\" add a varchar(20) not null", "alter table \"t\" drop b"] := by
    rfl
  have hadd : addReplyCall (integerText 7) =
      "CALL QSYS2.QCMDEXC('ADDRPYLE SEQNBR(7) MSGID(CPA32B2) RPY(''I'')')" := addReplyCall_eq 7
  have hremove : removeReplyCall (integerText 7) = "CALL QSYS2.QCMDEXC('RMVRPYLE SEQNBR(7)')" :=
    removeReplyCall_eq 7
  rcases h : (addingAndDropping.toSql (answering (.integer 7))).runOn
    { link := some (Link.fresh ()) } with ⟨r, after⟩
  have hr := congrArg Prod.fst h
  rw [toSql_runOn_asking _ hreached.isUnanswered hasks, numberAnswered_of_offered hseven] at hr
  dsimp only at hr
  rw [addingAndDropping.bracketed_of_isWritable (isWritable_of_natAbs_le (by decide)),
    hbody] at hr
  subst hr
  obtain ⟨added, recorded, hsplit, hbrackets, -⟩ := toSql_bracketed _ hreached h
  obtain ⟨l, n, hl, hn, hstatements, -⟩ := hbrackets hasks
  cases hl
  cases hn
  refine ⟨hreached, ?_, added, recorded, hsplit, ?_⟩
  · rw [hadd, changeJobCall_eq, hremove]
    rfl
  · rw [← addReplyCall_eq, ← changeJobCall_eq, ← removeReplyCall_eq] at hstatements
    -- The brackets are the same on both sides, so what stands between them is the same too.
    exact (List.append_cancel_left (List.append_cancel_right hstatements)).symm

end Db2Client.Schema
