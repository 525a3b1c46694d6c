import Db2Client.Proofs.Schema.WrittenText
import Db2Client.Proofs.Sql.Spelling

/-!
# What the definition of a column says

The definition of a column is its name, its short name, its type and its clauses. `HasType` gives
the type of every column and `Spells` the definition as a whole, word by word, with names and texts
spelled out. A column is compiled to the definition that is spelled for it
(`spells_of_definition`).
-/

namespace Db2Client.Schema

open Number Sql Text

namespace Column

/-! ## Types -/

/-- The type of a column as a statement has it. -/
inductive HasType (c : Column) : String → Prop
  | char : c.type = .char → HasType c ("char(" ++ c.length.plain ++ ")")
  | string : c.type = .string → HasType c ("varchar(" ++ c.length.plain ++ ")")
  | text : c.type = .text →
      HasType c ("varchar(" ++ (if c.length.truthy then c.length.plain else "16369") ++ ")")
  | longText : c.type = .mediumText ∨ c.type = .longText →
      HasType c ("varchar(" ++ (if c.length.truthy then c.length.plain else "16000") ++ ")")
  | bigInteger : c.type = .bigInteger → HasType c "bigint"
  | integer : c.type = .integer → HasType c "int"
  | smallInteger : c.type = .smallInteger → HasType c "smallint"
  | numeric : c.type = .numeric →
      HasType c ("numeric(" ++ c.total.plain ++ ", " ++ c.places.plain ++ ")")
  | decimal : c.type = .decimal ∨ c.type = .float →
      HasType c ("decimal(" ++ c.total.plain ++ ", " ++ c.places.plain ++ ")")
  | double : c.type = .double → c.total.truthy = true → c.places.truthy = true →
      HasType c ("double(" ++ c.total.plain ++ ", " ++ c.places.plain ++ ")")
  | bareDouble : c.type = .double → ¬ (c.total.truthy = true ∧ c.places.truthy = true) →
      HasType c "double"
  | boolean : c.type = .boolean →
      HasType c ("smallint constraint boolean_" ++ c.constraintTable.plain ++ "_" ++
        c.name.plain ++ " check(" ++ c.name.plain ++ " in(0, 1))" ++
        (if c.defaultValue.isNull then " default 0" else ""))
  | enumeration {values : List Value} : c.type = .enumeration → c.allowed.items? = some values →
      HasType c ("enum(" ++ ", ".intercalate (values.map fun v => Spelling.text v.plain) ++ ")")
  | date : c.type = .date →
      HasType c ("date" ++ (if c.nullable.truthy then "" else " default current_date"))
  | time : c.type = .time →
      HasType c ("time" ++ (if c.nullable.truthy then "" else " default current_time"))
  | timestamp : c.type = .dateTime ∨ c.type = .timestamp →
      HasType c ("timestamp" ++ (if c.nullable.truthy then "" else " default current_timestamp"))
  | binary : c.type = .binary → HasType c "blob"

variable {c : Column} {table type d : String}

theorem sized_one {word opened : String} (hopened : word ++ "(" = opened) (size : Value) :
    sized word [size] = opened ++ size.plain ++ ")" := by
  unfold sized
  rw [List.map_singleton, join, hopened]

theorem sized_two {word opened : String} (hopened : word ++ "(" = opened) (total places : Value) :
    sized word [total, places] = opened ++ total.plain ++ ", " ++ places.plain ++ ")" := by
  unfold sized
  rw [List.map_cons, List.map_singleton, join, join, hopened]
  simp only [String.append_assoc]

theorem plain_orElse (v : Value) (n : Int) :
    (v.orElse (.integer n)).plain = if v.truthy then v.plain else toString n := by
  unfold Value.orElse
  split
  · rfl
  · exact integerText_eq_toString n

theorem currentUnlessNullable_eq {moment clause : String} (hclause : " default " ++ moment = clause)
    (word : String) :
    currentUnlessNullable word moment c = word ++ (if c.nullable.truthy then "" else clause) := by
  unfold currentUnlessNullable
  split
  · rw [String.append_empty]
  · rw [String.append_assoc, hclause]

theorem hasType_of_enumerationType (hkind : c.type = .enumeration)
    (h : enumerationType c.allowed = .ok type) : c.HasType type := by
  unfold enumerationType at h
  cases hvalues : c.allowed.items? with
  | none =>
    rw [hvalues] at h
    cases h
  | some values =>
    rw [hvalues] at h
    cases h
    have hliteral : (values.map fun v => literal v.plain) =
        values.map fun v => Spelling.text v.plain :=
      List.map_congr_left fun v _ => literal_eq v.plain
    rw [hliteral, join_eq_intercalate]
    exact .enumeration hkind hvalues

/-- **A column is compiled to a type of its own.** -/
theorem hasType_of_typeText (h : c.typeText = .ok type) : c.HasType type := by
  unfold typeText at h
  have hchar : "char" ++ "(" = "char(" := by simp
  have hvarchar : "varchar" ++ "(" = "varchar(" := by simp
  have hnumeric : "numeric" ++ "(" = "numeric(" := by simp
  have hdecimal : "decimal" ++ "(" = "decimal(" := by simp
  have hdouble : "double" ++ "(" = "double(" := by simp
  have hdate : " default " ++ "current_date" = " default current_date" := by simp
  have htime : " default " ++ "current_time" = " default current_time" := by simp
  have htimestamp : " default " ++ "current_timestamp" = " default current_timestamp" := by simp
  cases hkind : c.type <;> simp only [hkind] at h
  case char =>
    cases h
    rw [sized_one hchar]
    exact .char hkind
  case string =>
    cases h
    rw [sized_one hvarchar]
    exact .string hkind
  case text =>
    cases h
    rw [sized_one hvarchar, plain_orElse]
    exact .text hkind
  case mediumText =>
    cases h
    rw [sized_one hvarchar, plain_orElse]
    exact .longText (.inl hkind)
  case longText =>
    cases h
    rw [sized_one hvarchar, plain_orElse]
    exact .longText (.inr hkind)
  case bigInteger =>
    cases h
    exact .bigInteger hkind
  case integer =>
    cases h
    exact .integer hkind
  case smallInteger =>
    cases h
    exact .smallInteger hkind
  case numeric =>
    cases h
    rw [sized_two hnumeric]
    exact .numeric hkind
  case decimal =>
    cases h
    rw [sized_two hdecimal]
    exact .decimal (.inl hkind)
  case float =>
    cases h
    rw [sized_two hdecimal]
    exact .decimal (.inr hkind)
  -- A double has a size only where both of its parts are given.
  case double =>
    cases h
    split
    · rename_i hgiven
      rw [Bool.and_eq_true] at hgiven
      rw [sized_two hdouble]
      exact .double hkind hgiven.1 hgiven.2
    · rename_i hnot
      rw [Bool.and_eq_true] at hnot
      exact .bareDouble hkind hnot
  case boolean =>
    cases h
    exact .boolean hkind
  case enumeration => exact hasType_of_enumerationType hkind h
  case date =>
    cases h
    rw [currentUnlessNullable_eq hdate]
    exact .date hkind
  case dateTime =>
    cases h
    rw [currentUnlessNullable_eq htimestamp]
    exact .timestamp (.inl hkind)
  case time =>
    cases h
    rw [currentUnlessNullable_eq htime]
    exact .time hkind
  case timestamp =>
    cases h
    rw [currentUnlessNullable_eq htimestamp]
    exact .timestamp (.inr hkind)
  case binary =>
    cases h
    exact .binary hkind

/-! ## Definitions -/

/-- The type is one of the integer types. -/
def CountsUp (c : Column) : Prop :=
  c.type = .smallInteger ∨ c.type = .integer ∨ c.type = .bigInteger

instance (c : Column) : Decidable c.CountsUp :=
  inferInstanceAs (Decidable (c.type = .smallInteger ∨ c.type = .integer ∨ c.type = .bigInteger))

/-- A default as a statement has it. Raw SQL stands as it is and flags as numbers. -/
inductive HasDefault : Value → String → Prop
  | rawSql (fragment : String) : HasDefault (.rawSql fragment) fragment
  | on : HasDefault (.flag true) "'1'"
  | off : HasDefault (.flag false) "'0'"
  | quoted {v : Value} : IsQuotedDefault v → HasDefault v (Spelling.text v.plain)

/-- How a column is generated, as a statement has it. -/
inductive HasGeneration : Value → String → Prop
  | always : HasGeneration (.flag true) "always"
  | other {v : Value} : v ≠ .flag true → HasGeneration v (Spelling.column v.plain)

/-- The definition of a column of a table. Its clauses stand in the order that DB2 expects. -/
inductive Spells (table : String) (c : Column) : String → Prop
  | definition {type default generation : String} : c.HasType type →
      HasDefault c.defaultValue default → HasGeneration c.generated generation →
      (c.autoIncrement.truthy = true → c.CountsUp) →
      Spells table c (Spelling.column c.name.plain ++
        (if c.forColumn.isNull then "" else " for column " ++ Spelling.column c.forColumn.plain) ++
        " " ++ type ++
        (if c.nullable.truthy ∨ c.autoIncrement.truthy then "" else " not null") ++
        (if c.defaultValue.isNull then "" else " default " ++ default) ++
        (if c.generated.isNull then "" else " generated " ++ generation) ++
        (if c.autoIncrement.truthy then " generated by default as identity constraint " ++
          String.ofList ((table.toList.splitOn '.').getLast?.getD []) ++ "-" ++ c.name.plain ++
          "_primary primary key" else "") ++
        (if c.startWith.isNull then "" else " (start with " ++ c.startWith.plain ++ ")") ++
        (if c.before.isNull then "" else " before " ++ Spelling.column c.before.plain) ++
        (if c.implicitlyHidden.truthy then " implicitly hidden" else ""))

theorem isSerial_iff (c : Column) : c.type.isSerial = true ↔ c.CountsUp := by
  rw [CountsUp]
  cases c.type <;> simp [ColumnType.isSerial]

theorem baseName_eq (table : String) :
    baseName table = String.ofList ((table.toList.splitOn '.').getLast?.getD []) := by
  unfold baseName cut
  rw [pieces_eq_splitOn, List.getLast?_map]
  cases (table.toList.splitOn '.').getLast? <;> rfl

theorem hasDefault_defaultLiteral (v : Value) : HasDefault v (defaultLiteral v) := by
  by_cases hquoted : IsQuotedDefault v
  · rw [defaultLiteral_of_quoted hquoted, literal_eq]
    exact .quoted hquoted
  -- What is not quoted is raw SQL or a flag.
  · cases v with
    | rawSql fragment => exact .rawSql fragment
    | flag b =>
      cases b with
      | true => exact .on
      | false => exact .off
    | _ => exact absurd trivial hquoted

theorem generatedClause_eq (c : Column) :
    ∃ generation, HasGeneration c.generated generation ∧
      generatedClause c = if c.generated.isNull then "" else " generated " ++ generation := by
  unfold generatedClause givenClause
  by_cases halways : c.generated = .flag true
  · refine ⟨"always", halways ▸ .always, ?_⟩
    have hwords : " generated " ++ "always" = " generated always" := by simp
    rw [halways, hwords]
  · refine ⟨_, .other halways, ?_⟩
    rw [← columnName_eq]
    split
    · rfl
    · dsimp only
      split
      · rename_i hflag
        exact absurd hflag halways
      · rfl

/-- A column that is compiled counts up only if its type can, and then it is an identity. -/
theorem countsUp_of_identityClause {identity : String}
    (h : identityClause table c = .ok identity) :
    (c.autoIncrement.truthy = true → c.CountsUp) ∧ c.isIdentity = c.autoIncrement.truthy ∧
      identity = if c.autoIncrement.truthy then
        " generated by default as identity constraint " ++
          String.ofList ((table.toList.splitOn '.').getLast?.getD []) ++ "-" ++ c.name.plain ++
          "_primary primary key" else "" := by
  unfold identityClause at h
  unfold isIdentity identityFlag Value.andThen
  by_cases hauto : c.autoIncrement.truthy = true
  · by_cases hserial : c.type.isSerial = true
    · simp only [hauto, hserial, baseName_eq] at h ⊢
      cases h
      exact ⟨fun _ => c.isSerial_iff.1 hserial, rfl, rfl⟩
    · simp [hauto, hserial] at h
  · simp only [hauto] at h ⊢
    cases h
    exact ⟨nofun, by simpa using hauto, rfl⟩

/-- **A column is compiled to the definition that is spelled for it.** -/
theorem spells_of_definition (h : c.definition table = .ok d) : c.Spells table d := by
  obtain ⟨type, identity, htype, hidentity, rfl⟩ := definition_eq_ok h
  obtain ⟨hcounts, hflag, rfl⟩ := countsUp_of_identityClause hidentity
  obtain ⟨generation, hgeneration, hgenerated⟩ := c.generatedClause_eq
  -- The type can count up, so to be an identity is to be asked to count up.
  have hnull : nullClause c =
      if c.nullable.truthy ∨ c.autoIncrement.truthy then "" else " not null" := by
    rw [nullClause, hflag]
    simp only [Bool.or_eq_true]
  rw [hnull, hgenerated]
  unfold valueReference forColumnClause defaultClause startClause beforeClause hiddenClause
    givenClause valueReference
  have hcolumn : columnName = Spelling.column := funext columnName_eq
  rw [hcolumn]
  exact .definition (hasType_of_typeText htype) (hasDefault_defaultLiteral c.defaultValue)
    hgeneration hcounts

end Column

end Db2Client.Schema
