import Db2Client.Proofs.Schema.Compilation

/-!
# When compiling fails

Of a blueprint that was recorded with arguments of the declared kinds, two things can be wrong: the
server has no number to offer that can be written, or a column asks for an identity that its type
cannot have. The number comes first. Of several columns the first is reported.

* `definitions_cases`: how the definitions of the columns fail.
* `statementsAll_unbracketed_cases`: how what stands between the brackets fails.
* `toSql_error_iff`: exactly when compiling fails, and with what.
-/

namespace Db2Client.Schema

open Number

variable {σ : Type}

/-! ## Identities -/

/-- The column is to count up by itself, but its type is no integer type. -/
def Column.MisplacedIdentity (c : Column) : Prop :=
  c.autoIncrement.truthy = true ∧
    c.type ≠ .smallInteger ∧ c.type ≠ .integer ∧ c.type ≠ .bigInteger

/-- How a misplaced identity is reported. -/
def misplacedIdentity (table : String) (c : Column) : Failure :=
  .schema { problem := .autoIncrementType c.type.tag, table := .text table, column := c.name }

/-- Of several columns, the first one with a misplaced identity. -/
inductive FirstMisplaced : List Column → Column → Prop
  | head {c : Column} {rest : List Column} :
      c.MisplacedIdentity → FirstMisplaced (c :: rest) c
  | tail {b c : Column} {rest : List Column} :
      ¬ b.MisplacedIdentity → FirstMisplaced rest c → FirstMisplaced (b :: rest) c

namespace FirstMisplaced

theorem ne_nil {columns : List Column} {c : Column} (h : FirstMisplaced columns c) :
    columns ≠ [] := by
  cases h <;> exact List.cons_ne_nil _ _

theorem mem {columns : List Column} {c : Column} (h : FirstMisplaced columns c) :
    c ∈ columns ∧ c.MisplacedIdentity := by
  induction h with
  | head hc => exact ⟨List.mem_cons_self, hc⟩
  | tail _ _ ih => exact ⟨List.mem_cons_of_mem _ ih.1, ih.2⟩

theorem unique {columns : List Column} {c d : Column} (hc : FirstMisplaced columns c)
    (hd : FirstMisplaced columns d) : c = d := by
  induction hc with
  | head hc =>
    cases hd with
    | head => rfl
    | tail hnot _ => exact absurd hc hnot
  | tail hnot _ ih =>
    cases hd with
    | head hd => exact absurd hd hnot
    | tail _ hrest => exact ih hrest

end FirstMisplaced

theorem isSerial_eq_false_iff (t : ColumnType) :
    t.isSerial = false ↔ t ≠ .smallInteger ∧ t ≠ .integer ∧ t ≠ .bigInteger := by
  cases t <;> decide

theorem typeText_ok {c : Column} (h : c.WellFormed) : ∃ t, c.typeText = .ok t := by
  unfold Column.typeText
  cases htype : c.type with
  | enumeration =>
    obtain ⟨values, hvalues⟩ := Option.isSome_iff_exists.1 (h htype)
    simp only [enumerationType, hvalues]
    exact ⟨_, rfl⟩
  | _ => exact ⟨_, rfl⟩

theorem definition_of_misplaced (table : String) {c : Column} (hc : c.WellFormed)
    (h : c.MisplacedIdentity) : c.definition table = .error (misplacedIdentity table c) := by
  obtain ⟨t, ht⟩ := typeText_ok hc
  have hserial : c.type.isSerial = false := (isSerial_eq_false_iff c.type).2 h.2
  have hidentity : identityClause table c =
      .error { problem := .autoIncrementType c.type.tag, table := .text table,
               column := c.name } := by
    simp [identityClause, h.1, hserial]
  rw [Column.definition, ht, hidentity]
  rfl

theorem definition_ok (table : String) {c : Column} (hc : c.WellFormed)
    (h : ¬ c.MisplacedIdentity) : ∃ d, c.definition table = .ok d := by
  obtain ⟨t, ht⟩ := typeText_ok hc
  have hidentity : ∃ clause, identityClause table c = .ok clause := by
    unfold identityClause
    split
    · exact ⟨_, rfl⟩
    · split
      · exact ⟨_, rfl⟩
      · rename_i hon hserial
        rw [Bool.not_eq_true, isSerial_eq_false_iff] at hserial
        exact absurd ⟨by simpa using hon, hserial⟩ h
  obtain ⟨clause, hclause⟩ := hidentity
  rw [Column.definition, ht, hclause]
  exact ⟨_, rfl⟩

/-- **The columns.** Their definitions fail at the first misplaced identity, or not at all. -/
theorem definitions_cases (table : String) {columns : List Column}
    (h : ∀ c ∈ columns, c.WellFormed) :
    (∃ c, FirstMisplaced columns c ∧
      definitions table columns = .error (misplacedIdentity table c)) ∨
    (∀ c ∈ columns, ¬ c.MisplacedIdentity) ∧ ∃ ds, definitions table columns = .ok ds := by
  induction columns with
  | nil => exact .inr ⟨nofun, [], rfl⟩
  | cons c rest ih =>
    obtain ⟨hc, hrest⟩ := List.forall_mem_cons.1 h
    by_cases hmis : c.MisplacedIdentity
    · refine .inl ⟨c, .head hmis, ?_⟩
      rw [definitions, definition_of_misplaced table hc hmis]
    · obtain ⟨d, hd⟩ := definition_ok table hc hmis
      obtain ⟨b, hb, herror⟩ | ⟨hnone, ds, hds⟩ := ih hrest
      · refine .inl ⟨b, .tail hmis hb, ?_⟩
        rw [definitions, hd, herror]
        rfl
      · refine .inr ⟨List.forall_mem_cons.2 ⟨hmis, hnone⟩, d :: ds, ?_⟩
        rw [definitions, hd, hds]
        rfl

/-! ## Commands -/

theorem statements_ok (bp : Blueprint) (k : Option Int) {c : Command}
    (hrec : c.kind.isRecorded = true) (h : c.WellFormed) (hcreate : c.kind ≠ .createTable) :
    ∃ statements, c.statements bp k = .ok statements := by
  obtain ⟨⟨names, hcolumns⟩, ⟨references, hreferences⟩, hindex⟩ := h
  obtain ⟨kind, columns, index, systemIndex, foreignTable, refs, onDelete, onUpdate, renameFrom,
    renameTo, label, systemCommand⟩ := c
  dsimp only at hcolumns hreferences hindex
  subst hcolumns hreferences
  cases kind with
  | createTable => exact absurd rfl hcreate
  | addPrimary | addUnique | addForeign | dropUnique | dropIndex | dropForeign =>
    obtain ⟨n, rfl⟩ := hindex rfl
    exact ⟨_, rfl⟩
  | dropTable | dropTableIfExists | dropColumn | renameColumn | addIndex | dropPrimary
  | renameTable | label | rawSystemCommand =>
    exact ⟨_, rfl⟩
  | addColumn | addReplyListEntry | removeReplyListEntry | changeJob | unknown tag => cases hrec

theorem statementsAll_ok {bp : Blueprint} {k : Option Int} {commands : List Command}
    (h : ∀ c ∈ commands, ∃ statements, c.statements bp k = .ok statements) :
    ∃ statements, statementsAll bp k commands = .ok statements := by
  induction commands with
  | nil => exact ⟨[], rfl⟩
  | cons c rest ih =>
    obtain ⟨⟨first, hfirst⟩, hrest⟩ := List.forall_mem_cons.1 h
    obtain ⟨more, hmore⟩ := ih hrest
    refine ⟨first ++ more, ?_⟩
    rw [statementsAll, hfirst, hmore]
    rfl

/-- Where all failures are the same it does not matter which command fails first. -/
theorem statementsAll_error {bp : Blueprint} {k : Option Int} {commands : List Command}
    {e : Failure}
    (h : ∀ c ∈ commands,
      (∃ statements, c.statements bp k = .ok statements) ∨ c.statements bp k = .error e)
    (hfails : ∃ c ∈ commands, c.statements bp k = .error e) :
    statementsAll bp k commands = .error e := by
  induction commands with
  | nil =>
    obtain ⟨c, hc, -⟩ := hfails
    cases hc
  | cons c rest ih =>
    rw [statementsAll]
    obtain ⟨⟨first, hfirst⟩ | herror, hrest⟩ := List.forall_mem_cons.1 h
    · obtain ⟨d, hd, hfail⟩ := hfails
      have hlater : d ∈ rest := by
        obtain rfl | hd := List.mem_cons.1 hd
        · rw [hfirst] at hfail
          cases hfail
        · exact hd
      rw [hfirst, ih hrest ⟨d, hlater, hfail⟩]
      rfl
    · rw [herror]
      rfl

/-- The definitions of the columns are written for the addition of columns and for the creation of
the table. -/
theorem statements_defining {bp : Blueprint} (k : Option Int) {c : Command}
    (hc : c.kind = .addColumn ∨ c.kind = .createTable) :
    ∃ f : List String → List String,
      c.statements bp k = (definitions bp.table bp.columns).map f := by
  obtain hc | hc := hc
  · exact ⟨_, by simp only [Command.statements, hc]; rfl⟩
  · exact ⟨_, by simp only [Command.statements, hc]; rfl⟩

theorem defining_mem_unbracketed {bp : Blueprint} (h : bp.columns ≠ []) :
    ∃ c ∈ bp.unbracketed, c.kind = .addColumn ∨ c.kind = .createTable := by
  by_cases hcreate : ∃ c ∈ bp.commands, c.kind = .createTable
  · obtain ⟨c, hc, hkind⟩ := hcreate
    exact ⟨c, Blueprint.mem_unbracketed_of_mem hc, .inr hkind⟩
  · have hadds : bp.AddsColumns := ⟨h, fun c hc hkind => hcreate ⟨c, hc, hkind⟩⟩
    refine ⟨{ kind := .addColumn }, ?_, .inl rfl⟩
    rw [Blueprint.unbracketed, if_pos (bp.addsColumns_iff.1 hadds)]
    exact List.mem_cons_self

/-- A command of a blueprint writes the definitions of the columns, or it cannot fail. -/
theorem statements_cases {bp : Blueprint} (hrec : ∀ c ∈ bp.commands, c.kind.isRecorded = true)
    (h : bp.WellFormed) (k : Option Int) {c : Command} (hc : c ∈ bp.unbracketed) :
    (c.kind = .addColumn ∨ c.kind = .createTable) ∨
      ∃ statements, c.statements bp k = .ok statements := by
  obtain rfl | hc := Blueprint.mem_unbracketed hc
  · exact .inl (.inl rfl)
  · by_cases hcreate : c.kind = .createTable
    · exact .inl (.inr hcreate)
    · exact .inr (statements_ok bp k (hrec c hc) (h.commands c hc) hcreate)

/-- **Between the brackets.** The first misplaced identity is reported, or nothing fails. -/
theorem statementsAll_unbracketed_cases {bp : Blueprint}
    (hrec : ∀ c ∈ bp.commands, c.kind.isRecorded = true) (h : bp.WellFormed) (k : Option Int) :
    (∃ c, FirstMisplaced bp.columns c ∧
      statementsAll bp k bp.unbracketed = .error (misplacedIdentity bp.table c)) ∨
    (∀ c ∈ bp.columns, ¬ c.MisplacedIdentity) ∧
      ∃ statements, statementsAll bp k bp.unbracketed = .ok statements := by
  obtain ⟨c, hc, herror⟩ | ⟨hnone, ds, hds⟩ := definitions_cases bp.table h.columns
  · have hdefining : ∀ d : Command, d.kind = .addColumn ∨ d.kind = .createTable →
        d.statements bp k = .error (misplacedIdentity bp.table c) := by
      intro d hd
      obtain ⟨f, hf⟩ := statements_defining k hd
      rw [hf, herror]
      rfl
    obtain ⟨d, hd, hkind⟩ := defining_mem_unbracketed hc.ne_nil
    refine .inl ⟨c, hc, statementsAll_error (fun d hd => ?_) ⟨d, hd, hdefining d hkind⟩⟩
    exact (statements_cases hrec h k hd).symm.imp_right (hdefining d)
  · refine .inr ⟨hnone, statementsAll_ok fun d hd => ?_⟩
    obtain hkind | hok := statements_cases hrec h k hd
    · obtain ⟨f, hf⟩ := statements_defining k hkind
      rw [hf, hds]
      exact ⟨_, rfl⟩
    · exact hok

theorem statementsAll_unbracketed_error_iff {bp : Blueprint}
    (hrec : ∀ c ∈ bp.commands, c.kind.isRecorded = true) (h : bp.WellFormed) (k : Option Int)
    {e : Failure} :
    statementsAll bp k bp.unbracketed = .error e ↔
      ∃ c, FirstMisplaced bp.columns c ∧ e = misplacedIdentity bp.table c := by
  obtain ⟨c, hc, herror⟩ | ⟨hnone, statements, hok⟩ := statementsAll_unbracketed_cases hrec h k
  · rw [herror]
    constructor
    · intro he
      exact ⟨c, hc, (Except.error.inj he).symm⟩
    · rintro ⟨d, hd, rfl⟩
      rw [hc.unique hd]
  · rw [hok]
    constructor
    · intro he
      cases he
    · rintro ⟨d, hd, -⟩
      exact absurd hd.mem.2 (hnone d hd.mem.1)

/-! ## Blueprints -/

/-- Why no entry is put on the reply list: the server's answer has a fault, or the number that it
offers is too long to write. -/
inductive EntryFault (table : String) (answer : Except String Reply) : Failure → Prop
  | number {e : Failure} : NumberFault table answer e → EntryFault table answer e
  | tooLong {n : Int} :
      offered? answer = some n → ¬ IsWritable n →
      EntryFault table answer (.number .tooLongToWrite)

/-- The one schema error among them is that every number is taken. -/
theorem EntryFault.problem_eq {table : String} {answer : Except String Reply} {f : Failure}
    (h : EntryFault table answer f) {e : SchemaError} (hf : f = .schema e) :
    e.problem = .noFreeReplyNumber := by
  cases h with
  | number hfault =>
    cases hfault with
    | noRow _ | emptyRow _ _ | null _ _ => rw [← Failure.schema.inj hf]
    | refused _ | unfetched _ | absent _ _ _ _ | unreadable _ _ _ _ => cases hf
  | tooLong _ _ => cases hf

/-- No entry is put on the reply list, or one with a number that can be written. -/
theorem entryFault_or_written (table : String) (answer : Except String Reply) :
    (∃ e, EntryFault table answer e) ∨ ∃ n, offered? answer = some n ∧ IsWritable n := by
  obtain ⟨n, hn⟩ | ⟨e, he⟩ := offered_or_fault table answer
  · by_cases hw : IsWritable n
    · exact .inr ⟨n, hn, hw⟩
    · exact .inl ⟨_, .tooLong hn hw⟩
  · exact .inl ⟨e, .number he⟩

theorem not_entryFault {bp : Blueprint} {answer : Except String Reply} {n : Int}
    (hn : offered? answer = some n) (hw : IsWritable n) (e : Failure) :
    ¬ EntryFault bp.table answer e := by
  intro h
  cases h with
  | number hfault =>
    have herror := numberAnswered_of_fault hfault
    rw [numberAnswered_of_offered hn] at herror
    cases herror
  | tooLong hm hlong =>
    rw [hn] at hm
    cases hm
    exact hlong hw

/-- The blueprint needs an entry on the reply list, and there is none to be had. -/
def Blueprint.EntryFails (bp : Blueprint) (db : Database σ) (link : Link σ) (e : Failure) : Prop :=
  bp.AsksBack ∧ EntryFault bp.table (db.answer link.memory replyNumberQuery none).1 e

theorem toSql_of_entryFails {db : Database σ} {bp : Blueprint} (hbp : bp.IsUnanswered)
    {link : Link σ} {e : Failure} (h : bp.EntryFails db link e) :
    ((bp.toSql db).runOn { link := some link }).1 = .error e := by
  obtain ⟨hasks, hentry⟩ := h
  rw [toSql_runOn_asking db hbp hasks]
  cases hentry with
  | number hfault => rw [numberAnswered_of_fault hfault]
  | tooLong hn hw =>
    rw [numberAnswered_of_offered hn]
    exact bp.bracketed_of_not_isWritable hw

theorem toSql_error_of_not_entryFails {db : Database σ} {bp : Blueprint} (hbp : bp.IsUnanswered)
    {link : Link σ} (h : ∀ e, ¬ bp.EntryFails db link e) :
    ∃ k, ∀ e, ((bp.toSql db).runOn { link := some link }).1 = .error e ↔
      statementsAll bp k bp.unbracketed = .error e := by
  by_cases hasks : bp.AsksBack
  · obtain ⟨e, he⟩ | ⟨n, hn, hw⟩ :=
      entryFault_or_written bp.table (db.answer link.memory replyNumberQuery none).1
    · exact absurd ⟨hasks, he⟩ (h e)
    · refine ⟨some n, fun e => ?_⟩
      rw [toSql_runOn_asking db hbp hasks, numberAnswered_of_offered hn]
      dsimp only
      rw [bp.bracketed_of_isWritable hw]
      cases statementsAll bp (some n) bp.unbracketed with
      | error f => rfl
      | ok body => exact ⟨nofun, nofun⟩
  · refine ⟨none, fun e => ?_⟩
    rw [toSql_runOn db hbp hasks]

/-- Compiling fails because of the entry, or else because of the first misplaced identity. -/
theorem toSql_error_iff (db : Database σ) {bp : Blueprint} (hbp : bp.Reached Edit.IsTyped)
    (link : Link σ) (e : Failure) :
    ((bp.toSql db).runOn { link := some link }).1 = .error e ↔
      bp.EntryFails db link e ∨
      (∀ f, ¬ bp.EntryFails db link f) ∧
        ∃ c, FirstMisplaced bp.columns c ∧ e = misplacedIdentity bp.table c := by
  have hguided : bp.Reached Edit.IsGuided := hbp.mono fun _ he => he.isGuided
  by_cases hfails : ∃ f, bp.EntryFails db link f
  · obtain ⟨f, hf⟩ := hfails
    constructor
    · intro he
      rw [toSql_of_entryFails hguided.isUnanswered hf] at he
      cases he
      exact .inl hf
    · rintro (he | ⟨hnone, -⟩)
      · exact toSql_of_entryFails hguided.isUnanswered he
      · exact absurd hf (hnone f)
  -- Whatever number is in use, the statements of the body fail in the same way.
  · have hnone : ∀ f, ¬ bp.EntryFails db link f := not_exists.1 hfails
    obtain ⟨k, hk⟩ := toSql_error_of_not_entryFails hguided.isUnanswered hnone
    rw [hk e, statementsAll_unbracketed_error_iff hguided.isRecorded hbp.wellFormed k]
    constructor
    · intro h
      exact .inr ⟨hnone, h⟩
    · rintro (he | ⟨-, h⟩)
      · exact absurd he (hnone e)
      · exact h

/-- **When compiling fails.** A column of an unknown type is refused when it is recorded, and leaves
the blueprint as it was. After that, compiling fails exactly when an entry for the reply list is
needed and cannot be had, or else when an identity is misplaced. No command is unknown, and no
number is used before it is there. -/
theorem toSql_fails_iff (db : Database σ) {bp : Blueprint} (hbp : bp.Reached Edit.IsTyped)
    (link : Link σ) :
    (∀ (tag name : Value) (attributes : Attributes), ColumnType.ofTag? tag = none →
      bp.applyAll [.column tag name attributes] =
        (.error (.schema { problem := .unsupportedColumnType tag.plain, table := .text bp.table,
                           column := name }), bp)) ∧
    (∀ e, ((bp.toSql db).runOn { link := some link }).1 = .error e ↔
      bp.EntryFails db link e ∨
      (∀ f, ¬ bp.EntryFails db link f) ∧
        ∃ c, FirstMisplaced bp.columns c ∧ e = misplacedIdentity bp.table c) ∧
    (∀ e, ((bp.toSql db).runOn { link := some link }).1 = .error (.schema e) →
      e.problem ≠ .unsupportedCommand ∧ e.problem ≠ .replyNumberUnassigned ∧
        ∀ tag, e.problem ≠ .unsupportedColumnType tag) := by
  refine ⟨fun tag name attributes htag => ?_, toSql_error_iff db hbp link, fun e he => ?_⟩
  · rw [Blueprint.applyAll, apply_column_unknown bp name attributes htag]
  · obtain ⟨-, hentry⟩ | ⟨-, c, -, hc⟩ := (toSql_error_iff db hbp link _).1 he
    · rw [hentry.problem_eq rfl]
      refine ⟨?_, ?_, fun tag => ?_⟩ <;> simp
    · cases hc
      refine ⟨?_, ?_, fun tag => ?_⟩ <;> simp

/-- A text cannot count up by itself, and that is reported although the server has a number. -/
theorem toSql_fails_on_text :
    ∃ (bp : Blueprint) (c : Column), bp.Reached Edit.IsTyped ∧ FirstMisplaced bp.columns c ∧
      ((bp.toSql (answering (.integer 7))).runOn { link := some (Link.fresh ()) }).1 =
        .error (misplacedIdentity bp.table c) := by
  let edits : List Edit :=
    [.column (.text "text") (.text "a") { autoIncrement := .flag true }, .dropColumns [.text "b"]]
  have hreached : (Blueprint.applyAll { table := "t" } edits).2.Reached Edit.IsTyped :=
    .of_edits "t" (List.forall_mem_cons.2 ⟨⟨rfl, by decide⟩,
      List.forall_mem_singleton.2 ⟨trivial, by decide⟩⟩)
  have hfirst : FirstMisplaced (Blueprint.applyAll { table := "t" } edits).2.columns
      { type := .text, name := .text "a", autoIncrement := .flag true } :=
    .head ⟨rfl, by decide, by decide, by decide⟩
  have hentry : ∀ e, ¬ (Blueprint.applyAll { table := "t" } edits).2.EntryFails
      (answering (.integer 7)) (Link.fresh ()) e := by
    rintro e ⟨-, he⟩
    have hseven : IsWritable 7 := isWritable_of_natAbs_le (by decide)
    exact not_entryFault (offered?_answering (.integer 7) replyNumberQuery) hseven e he
  refine ⟨_, _, hreached, hfirst, ?_⟩
  exact ((toSql_fails_iff (answering (.integer 7)) hreached (Link.fresh ())).2.1 _).2
    (.inr ⟨hentry, _, hfirst, rfl⟩)

/-- Compiling can fail although the server offers an integer and no identity is misplaced: the
integer has more digits than can be written. -/
theorem toSql_fails_on_long_number :
    ∃ bp : Blueprint, bp.Reached Edit.IsTyped ∧ bp.AsksBack ∧
      (∃ n, offered? ((answering longNumber).answer () replyNumberQuery none).1 = some n) ∧
      (∀ c ∈ bp.columns, ¬ c.MisplacedIdentity) ∧
      ∃ e, ((bp.toSql (answering longNumber)).runOn { link := some (Link.fresh ()) }).1 =
        .error e := by
  have hreached : (Blueprint.applyAll { table := "t" } [.dropColumns [.text "b"]]).2.Reached
      Edit.IsTyped :=
    .of_edits "t" (List.forall_mem_singleton.2 ⟨trivial, by decide⟩)
  have hoffered : offered? ((answering longNumber).answer () replyNumberQuery none).1 =
      some ((Nat.pow 10 digitLimit : Nat) : Int) := by
    rw [offered?_answering, toInteger_longNumber]
    rfl
  refine ⟨_, hreached, ⟨_, .head _, .inl rfl⟩, ⟨_, hoffered⟩, nofun, .number .tooLongToWrite, ?_⟩
  exact (toSql_error_iff (answering longNumber) hreached (Link.fresh ()) _).2
    (.inl ⟨⟨_, .head _, .inl rfl⟩, .tooLong hoffered not_isWritable_longNumber⟩)

end Db2Client.Schema
