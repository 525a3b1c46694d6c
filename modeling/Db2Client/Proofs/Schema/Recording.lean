import Db2Client.Schema.Blueprint
import Db2Client.Schema.Definition

/-!
# What edits record

A blueprint is reached by edits, from one without columns and commands. An edit that fails leaves
the blueprint as it was, so `Reached` has a step only for an edit that succeeds, and the blueprint
that a run leaves is reached whether or not the run ends in a failure (`Reached.applyAll`).

* `apply_cases`: all that one edit can do.
* `Reached.isRecorded`: without bare commands, no command of a blueprint asks for a number, for the
  implied addition of columns, or is unknown.
* `Reached.wellFormed`: with arguments of the declared kinds, every command and column of a
  blueprint has the parts that compiling it needs.
-/

namespace Db2Client.Schema

/-! ## Edits -/

/-- Every edit but a command that is recorded as it is. -/
def Edit.IsGuided : Edit → Prop
  | .command _ => False
  | _ => True

/-- A value where a name is given or left out. -/
def IsTextOrNull (v : Value) : Prop := v = .null ∨ ∃ s, v = .text s

/-- The arguments are of the kinds declared for them, as far as compiling depends on it: the name
of an index is text where it is given, and what an enumeration allows has items. -/
def Edit.HasDeclaredKinds : Edit → Prop
  | .primary _ name | .unique _ name | .index _ name _ | .foreign _ _ _ name _ _ =>
    IsTextOrNull name
  | .column _ _ attributes => attributes.allowed.items?.isSome
  | .command _ => False
  | _ => True

def Attributes.values (a : Attributes) : List Value :=
  [a.length, a.total, a.places, a.allowed, a.constraintTable, a.nullable, a.defaultValue,
    a.autoIncrement, a.generated, a.startWith, a.before, a.implicitlyHidden, a.forColumn]

/-- The values that an edit is given. -/
def Edit.values : Edit → List Value
  | .create | .drop | .dropIfExists | .command _ => []
  | .rename v | .useSystemName v | .label v | .systemCommand v | .dropPrimary v | .dropUnique v
  | .dropIndex v | .dropForeign v => [v]
  | .dropColumns columns => columns
  | .renameColumn old new => [old, new]
  | .primary columns name | .unique columns name => name :: columns
  | .index columns name systemName => name :: systemName :: columns
  | .foreign columns references table name onDelete onUpdate =>
    table :: name :: onDelete :: onUpdate :: (columns ++ references)
  | .column tag name attributes => tag :: name :: attributes.values
  | .boolean name attributes => name :: attributes.values

/-- The arguments are of the declared kinds, and no integer among them is too long to write. -/
structure Edit.IsTyped (e : Edit) : Prop where
  kinds : e.HasDeclaredKinds
  writable : ∀ v ∈ e.values, v.writable = true

theorem Edit.IsTyped.isGuided {e : Edit} (h : e.IsTyped) : e.IsGuided := by
  cases e with
  | command c => exact h.kinds
  | _ => trivial

/-- A kind of command that edits record. The others are implied when a blueprint is compiled, or
are no known kind. -/
def CommandKind.isRecorded : CommandKind → Bool
  | .addColumn | .addReplyListEntry | .removeReplyListEntry | .changeJob | .unknown _ => false
  | _ => true

/-- A kind of command whose index name is searched for the schema of the table. -/
def CommandKind.namesConstraint : CommandKind → Bool
  | .addPrimary | .addUnique | .addForeign | .dropUnique | .dropIndex | .dropForeign => true
  | _ => false

/-- The parts of the command are of the kinds that compiling it needs. -/
structure Command.WellFormed (c : Command) : Prop where
  columns : ∃ names, c.columns = .list names
  references : ∃ names, c.references = .list names
  index : c.kind.namesConstraint = true → ∃ n, c.index = .text n

/-- What an enumeration allows has items. -/
def Column.WellFormed (c : Column) : Prop := c.type = .enumeration → c.allowed.items?.isSome

structure Blueprint.WellFormed (bp : Blueprint) : Prop where
  columns : ∀ c ∈ bp.columns, c.WellFormed
  commands : ∀ c ∈ bp.commands, c.WellFormed

/-! ## Commands on indexes -/

theorem addIndex_ok {bp : Blueprint} {kind : CommandKind} {word : String} {columns : List Value}
    {name : Value} {c : Command} (h : bp.addIndex kind word columns name = .ok c) :
    ∃ index, c = { kind, columns := .list columns, index } ∧
      (IsTextOrNull name → ∃ n, index = .text n) := by
  unfold Blueprint.addIndex at h
  split at h
  · cases hname : bp.conventionalNameOn word columns with
    | error e => simp [hname, Except.map] at h
    | ok n =>
      simp only [hname, Except.map, Except.ok.injEq] at h
      exact ⟨.text n, h.symm, fun _ => ⟨n, rfl⟩⟩
  · rename_i hnull
    refine ⟨name, (Except.ok.inj h).symm, fun hname => ?_⟩
    obtain rfl | ⟨s, rfl⟩ := hname
    · exact absurd rfl hnull
    · exact ⟨s, rfl⟩

theorem removeConventionalIndex_ok {bp : Blueprint} {kind : CommandKind} {word : String}
    {columns : List Value} {c : Command}
    (h : bp.removeConventionalIndex kind word columns = .ok c) :
    ∃ n, c = { kind, columns := .list columns, index := .text n } := by
  unfold Blueprint.removeConventionalIndex at h
  cases hname : bp.conventionalNameOn word columns with
  | error e => simp [hname, Except.map] at h
  | ok n =>
    simp only [hname, Except.map, Except.ok.injEq] at h
    exact ⟨n, h.symm⟩

theorem removeIndex_ok {bp : Blueprint} {kind : CommandKind} {word : String} {index : Value}
    {c : Command} (h : bp.removeIndex kind word index = .ok c) :
    ∃ columns n, c = { kind, columns := .list columns, index := .text n } := by
  unfold Blueprint.removeIndex at h
  split at h
  · rename_i s
    exact ⟨[], s, (Except.ok.inj h).symm⟩
  · split at h
    · split at h
      · exact ⟨_, removeConventionalIndex_ok h⟩
      · cases h
    · exact ⟨_, removeConventionalIndex_ok h⟩

/-! ## One edit -/

theorem isRecorded_of_commandOf? {bp : Blueprint} {e : Edit} {c : Command} (he : e.IsGuided)
    (h : bp.commandOf? e = some (.ok c)) : c.kind.isRecorded = true := by
  cases e with
  | create | drop | dropIfExists | rename _ | label _ | systemCommand _ | dropColumns _
  | renameColumn _ _ =>
    cases h
    rfl
  | primary columns name | unique columns name =>
    obtain ⟨_, rfl, -⟩ := addIndex_ok (Option.some.inj h)
    rfl
  | index columns name systemName =>
    obtain ⟨_, hadd, rfl⟩ := map_eq_ok (Option.some.inj h)
    obtain ⟨_, rfl, -⟩ := addIndex_ok hadd
    rfl
  | foreign columns references table name onDelete onUpdate =>
    obtain ⟨_, hadd, rfl⟩ := map_eq_ok (Option.some.inj h)
    obtain ⟨_, rfl, -⟩ := addIndex_ok hadd
    rfl
  | dropPrimary i | dropUnique i | dropIndex i | dropForeign i =>
    obtain ⟨_, _, rfl⟩ := removeIndex_ok (Option.some.inj h)
    rfl
  | useSystemName _ | column _ _ _ | boolean _ _ => cases h
  | command c => exact he.elim

theorem wellFormed_of_commandOf? {bp : Blueprint} {e : Edit} {c : Command}
    (he : e.HasDeclaredKinds) (h : bp.commandOf? e = some (.ok c)) : c.WellFormed := by
  cases e with
  | create | drop | dropIfExists | rename _ | label _ | systemCommand _ =>
    cases h
    exact ⟨⟨_, rfl⟩, ⟨_, rfl⟩, nofun⟩
  | dropColumns columns | renameColumn old new =>
    cases h
    exact ⟨⟨_, rfl⟩, ⟨_, rfl⟩, nofun⟩
  | primary columns name | unique columns name =>
    obtain ⟨_, rfl, hindex⟩ := addIndex_ok (Option.some.inj h)
    exact ⟨⟨_, rfl⟩, ⟨_, rfl⟩, fun _ => hindex he⟩
  | index columns name systemName =>
    obtain ⟨_, hadd, rfl⟩ := map_eq_ok (Option.some.inj h)
    obtain ⟨_, rfl, -⟩ := addIndex_ok hadd
    exact ⟨⟨_, rfl⟩, ⟨_, rfl⟩, nofun⟩
  | foreign columns references table name onDelete onUpdate =>
    obtain ⟨_, hadd, rfl⟩ := map_eq_ok (Option.some.inj h)
    obtain ⟨_, rfl, hindex⟩ := addIndex_ok hadd
    exact ⟨⟨_, rfl⟩, ⟨_, rfl⟩, fun _ => hindex he⟩
  | dropPrimary i | dropUnique i | dropIndex i | dropForeign i =>
    obtain ⟨_, n, rfl⟩ := removeIndex_ok (Option.some.inj h)
    exact ⟨⟨_, rfl⟩, ⟨_, rfl⟩, fun _ => ⟨n, rfl⟩⟩
  | useSystemName _ | column _ _ _ | boolean _ _ => cases h
  | command c => exact he.elim

/-- **One edit.** It adds one column, or sets the short name, or records one command. -/
theorem apply_cases {bp after : Blueprint} {e : Edit} (h : bp.apply e = .ok after) :
    (∃ tag name attributes type, e = .column tag name attributes ∧
      after = bp.addColumn { attributes with type, name }) ∨
    (∃ name attributes, e = .boolean name attributes ∧
      after = bp.addColumn (bp.booleanColumn name attributes)) ∨
    (∃ name, e = .useSystemName name ∧ after = { bp with systemName := name }) ∨
    ∃ c, bp.commandOf? e = some (.ok c) ∧ after = bp.record c := by
  cases e with
  | column tag name attributes =>
    obtain ⟨c, hnew, rfl⟩ := map_eq_ok h
    unfold Blueprint.newColumn at hnew
    cases htype : ColumnType.ofTag? tag with
    | none => simp [htype] at hnew
    | some type =>
      simp only [htype, mapError_ok, Except.ok.injEq] at hnew
      exact .inl ⟨tag, name, attributes, type, rfl, by rw [← hnew]⟩
  | boolean name attributes => exact .inr (.inl ⟨name, attributes, rfl, (Except.ok.inj h).symm⟩)
  | useSystemName name => exact .inr (.inr (.inl ⟨name, rfl, (Except.ok.inj h).symm⟩))
  | _ =>
    simp only [Blueprint.apply, Blueprint.commandOf?] at h
    obtain ⟨c, hc, rfl⟩ := map_eq_ok h
    exact .inr (.inr (.inr ⟨c, congrArg some hc, rfl⟩))

theorem apply_column_unknown (bp : Blueprint) {tag : Value} (name : Value)
    (attributes : Attributes) (h : ColumnType.ofTag? tag = none) :
    bp.apply (.column tag name attributes) =
      .error (.schema { problem := .unsupportedColumnType tag.plain, table := .text bp.table,
                        column := name }) := by
  simp only [Blueprint.apply, Blueprint.newColumn, h, mapError_error, Except.map]

/-! ## Blueprints that edits reach -/

/-- A blueprint reached by edits with a property, from one without columns and commands. -/
inductive Blueprint.Reached (P : Edit → Prop) : Blueprint → Prop
  | empty (table tablePrefix : String) : Reached P { table, tablePrefix }
  | edit {bp after : Blueprint} {e : Edit} :
      Reached P bp → P e → bp.apply e = .ok after → Reached P after

namespace Blueprint.Reached

variable {P Q : Edit → Prop}

theorem mono {bp : Blueprint} (hPQ : ∀ e, P e → Q e) (h : Reached P bp) : Reached Q bp := by
  induction h with
  | empty table tablePrefix => exact .empty table tablePrefix
  | edit _ he happly ih => exact .edit ih (hPQ _ he) happly

/-- The blueprint that several edits leave is reached, also when one of them fails. -/
theorem applyAll {bp : Blueprint} (h : Reached P bp) {edits : List Edit} (he : ∀ e ∈ edits, P e) :
    Reached P (bp.applyAll edits).2 := by
  induction edits generalizing bp with
  | nil => exact h
  | cons e rest ih =>
    rw [Blueprint.applyAll]
    cases happly : bp.apply e with
    | error err => exact h
    | ok after =>
      obtain ⟨hfirst, hrest⟩ := List.forall_mem_cons.1 he
      exact ih (.edit h hfirst happly) hrest

theorem of_edits (table : String) {edits : List Edit} (he : ∀ e ∈ edits, P e) :
    Reached P (Blueprint.applyAll { table } edits).2 :=
  (empty table "").applyAll he

theorem forall_commands {R : Command → Prop} {bp : Blueprint} (h : Reached P bp)
    (hR : ∀ bp e c, P e → Blueprint.commandOf? bp e = some (.ok c) → R c) :
    ∀ c ∈ bp.commands, R c := by
  induction h with
  | empty table tablePrefix => nofun
  | edit _ he happly ih =>
    obtain ⟨_, _, _, _, rfl, rfl⟩ | ⟨_, _, rfl, rfl⟩ | ⟨_, rfl, rfl⟩ | ⟨c, hc, rfl⟩ :=
      apply_cases happly
    · exact ih
    · exact ih
    · exact ih
    · exact List.forall_mem_append.2 ⟨ih, List.forall_mem_singleton.2 (hR _ _ _ he hc)⟩

theorem isRecorded {bp : Blueprint} (h : Reached Edit.IsGuided bp) :
    ∀ c ∈ bp.commands, c.kind.isRecorded = true :=
  h.forall_commands fun _ _ _ he hc => isRecorded_of_commandOf? he hc

theorem wellFormed_commands {bp : Blueprint} (h : Reached Edit.IsTyped bp) :
    ∀ c ∈ bp.commands, c.WellFormed :=
  h.forall_commands fun _ _ _ he hc => wellFormed_of_commandOf? he.kinds hc

theorem wellFormed_columns {bp : Blueprint} (h : Reached Edit.IsTyped bp) :
    ∀ c ∈ bp.columns, c.WellFormed := by
  induction h with
  | empty table tablePrefix => nofun
  | edit _ he happly ih =>
    obtain ⟨_, _, _, _, rfl, rfl⟩ | ⟨_, _, rfl, rfl⟩ | ⟨_, rfl, rfl⟩ | ⟨_, _, rfl⟩ :=
      apply_cases happly
    · exact List.forall_mem_append.2 ⟨ih, List.forall_mem_singleton.2 fun _ => he.kinds⟩
    · exact List.forall_mem_append.2 ⟨ih, List.forall_mem_singleton.2 nofun⟩
    · exact ih
    · exact ih

theorem wellFormed {bp : Blueprint} (h : Reached Edit.IsTyped bp) : bp.WellFormed :=
  ⟨h.wellFormed_columns, h.wellFormed_commands⟩

end Blueprint.Reached

end Db2Client.Schema
