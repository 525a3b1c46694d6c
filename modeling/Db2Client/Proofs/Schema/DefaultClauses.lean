import Db2Client.Schema.Definition

/-!
# The default clauses of a column

Two places in the definition of a column can write a default: its type and the default clause. A
boolean leaves it to the clause where a default is given. The types that hold a moment only look at
whether the column may be null (`endsInDefault_iff`). So there is one clause at the most, unless a
moment that may not be null is given a default: then there are two.

Main result: `definition_default_clauses`.
-/

namespace Db2Client.Schema

open Sql Text

/-! ## Types that end in a default -/

/-- The default clauses that a type can write. -/
def typeDefaults : List String :=
  [" default 0", " default current_date", " default current_time", " default current_timestamp"]

/-- The type ends with a default clause. -/
def EndsInDefault (type : String) : Prop :=
  ∃ clause ∈ typeDefaults, clause.toList <:+ type.toList

instance (type : String) : Decidable (EndsInDefault type) :=
  inferInstanceAs (Decidable (∃ clause ∈ typeDefaults, clause.toList <:+ type.toList))

theorem endsInDefault_append (bare : String) {clause : String} (h : clause ∈ typeDefaults) :
    EndsInDefault (bare ++ clause) :=
  ⟨clause, h, by rw [String.toList_append]; exact List.suffix_append ..⟩

/-- No default clause ends with a parenthesis. -/
theorem not_endsInDefault_of_closed {type : String} (h : ")".toList <:+ type.toList) :
    ¬ EndsInDefault type := by
  rintro ⟨clause, hclause, hends⟩
  have hopen : ∀ clause ∈ typeDefaults,
      ")".toList.length ≤ clause.toList.length ∧ ¬ ")".toList <:+ clause.toList := by decide
  obtain ⟨hlength, hnot⟩ := hopen clause hclause
  exact hnot (List.suffix_of_suffix_length_le h hends hlength)

theorem closed_append (front : String) {close : String} (h : ")".toList <:+ close.toList) :
    ")".toList <:+ (front ++ close).toList := by
  rw [String.toList_append]
  exact h.trans (List.suffix_append ..)

theorem not_endsInDefault_sized (name : String) (sizes : List Value) :
    ¬ EndsInDefault (sized name sizes) :=
  not_endsInDefault_of_closed (closed_append _ (by decide))

/-- The types that hold a moment: a date, a time or both. -/
def ColumnType.IsMoment (t : ColumnType) : Prop :=
  t = .date ∨ t = .time ∨ t = .dateTime ∨ t = .timestamp

/-- The type of the column writes a default: that of a boolean which is given none, and that of a
moment which may not be null. -/
def Column.HasTypeDefault (c : Column) : Prop :=
  c.type = .boolean ∧ c.defaultValue.isNull = true ∨ c.type.IsMoment ∧ c.nullable.truthy = false

/-- The type is one default clause and something that does not end in another. -/
def EndsInOneDefault (type : String) : Prop :=
  ∃ bare, ∃ clause ∈ typeDefaults, type = bare ++ clause ∧ ¬ EndsInDefault bare

theorem EndsInOneDefault.endsInDefault {type : String} (h : EndsInOneDefault type) :
    EndsInDefault type := by
  obtain ⟨bare, clause, hclause, rfl, -⟩ := h
  exact endsInDefault_append bare hclause

variable {table type d : String} {c : Column}

theorem moment_cases (hmoment : c.type.IsMoment) {name moment : String}
    (hclause : " default " ++ moment ∈ typeDefaults) (hbare : ¬ EndsInDefault name) :
    c.HasTypeDefault ∧ EndsInOneDefault (currentUnlessNullable name moment c) ∨
      ¬ c.HasTypeDefault ∧ ¬ EndsInDefault (currentUnlessNullable name moment c) := by
  have hother : c.type ≠ .boolean := by
    rintro hboolean
    simp [ColumnType.IsMoment, hboolean] at hmoment
  rw [currentUnlessNullable]
  cases hnull : c.nullable.truthy with
  | true => exact .inr ⟨by simp [Column.HasTypeDefault, hother, hnull], hbare⟩
  | false =>
    refine .inl ⟨.inr ⟨hmoment, hnull⟩, name, " default " ++ moment, hclause, ?_, hbare⟩
    simp only [Bool.false_eq_true, if_false, String.append_assoc]

theorem boolean_cases (hboolean : c.type = .boolean) :
    c.HasTypeDefault ∧ EndsInOneDefault (booleanType c) ∨
      ¬ c.HasTypeDefault ∧ ¬ EndsInDefault (booleanType c) := by
  have hother : ¬ c.type.IsMoment := by simp [ColumnType.IsMoment, hboolean]
  obtain ⟨front, hfront⟩ : ∃ front, booleanType c =
      front ++ " in(0, 1))" ++ (if c.defaultValue.isNull then " default 0" else "") := ⟨_, rfl⟩
  have hclosed : ¬ EndsInDefault (front ++ " in(0, 1))") :=
    not_endsInDefault_of_closed (closed_append front (by decide))
  rw [hfront]
  cases hnull : c.defaultValue.isNull with
  | true => exact .inl ⟨.inl ⟨hboolean, hnull⟩, _, " default 0", by decide, rfl, hclosed⟩
  | false =>
    refine .inr ⟨by simp [Column.HasTypeDefault, hother, hnull], ?_⟩
    rwa [if_neg Bool.false_ne_true, String.append_empty]

theorem enumeration_not_endsInDefault {allowed : Value}
    (h : enumerationType allowed = .ok type) : ¬ EndsInDefault type := by
  unfold enumerationType at h
  split at h
  · rw [← Except.ok.inj h]
    exact not_endsInDefault_of_closed (closed_append _ (by decide))
  · cases h

/-- **A type writes one default clause or none.** -/
theorem typeText_cases (h : c.typeText = .ok type) :
    c.HasTypeDefault ∧ EndsInOneDefault type ∨ ¬ c.HasTypeDefault ∧ ¬ EndsInDefault type := by
  unfold Column.typeText at h
  cases htype : c.type with
  | boolean =>
    rw [htype] at h
    obtain rfl := Except.ok.inj h
    exact boolean_cases htype
  | date | dateTime | time | timestamp =>
    rw [htype] at h
    obtain rfl := Except.ok.inj h
    exact moment_cases (by simp [ColumnType.IsMoment, htype]) (by decide) (by decide)
  | enumeration =>
    rw [htype] at h
    refine .inr ⟨?_, enumeration_not_endsInDefault h⟩
    simp [Column.HasTypeDefault, ColumnType.IsMoment, htype]
  | double =>
    rw [htype] at h
    obtain rfl := Except.ok.inj h
    refine .inr ⟨by simp [Column.HasTypeDefault, ColumnType.IsMoment, htype], ?_⟩
    split
    · exact not_endsInDefault_sized "double" _
    · decide
  | bigInteger | integer | smallInteger | binary =>
    rw [htype] at h
    obtain rfl := Except.ok.inj h
    exact .inr ⟨by simp [Column.HasTypeDefault, ColumnType.IsMoment, htype], by decide⟩
  | char | string | text | mediumText | longText | numeric | decimal | float =>
    rw [htype] at h
    obtain rfl := Except.ok.inj h
    refine .inr ⟨by simp [Column.HasTypeDefault, ColumnType.IsMoment, htype], ?_⟩
    exact not_endsInDefault_sized _ _

theorem endsInDefault_iff (h : c.typeText = .ok type) :
    EndsInDefault type ↔ c.HasTypeDefault := by
  rcases typeText_cases h with ⟨hhas, hone⟩ | ⟨hnot, hnone⟩
  · exact iff_of_true hone.endsInDefault hhas
  · exact iff_of_false hnone hnot

/-! ## Definitions -/

theorem definition_eq_ok (h : c.definition table = .ok d) :
    ∃ type identity, c.typeText = .ok type ∧ identityClause table c = .ok identity ∧
      d = valueReference c.name ++ forColumnClause c ++ " " ++ type ++ nullClause c ++
        defaultClause c ++ generatedClause c ++ identity ++ startClause c ++ beforeClause c ++
        hiddenClause c := by
  obtain ⟨type, htype, h⟩ := bind_eq_ok h
  obtain ⟨identity, hidentity, h⟩ := bind_eq_ok h
  exact ⟨type, identity, htype, mapError_eq_ok hidentity, (Except.ok.inj h).symm⟩

theorem defaultClause_of_null (h : c.defaultValue.isNull = true) : defaultClause c = "" := by
  simp [defaultClause, givenClause, h]

theorem defaultClause_of_given (h : c.defaultValue.isNull = false) :
    defaultClause c = " default " ++ defaultLiteral c.defaultValue := by
  simp [defaultClause, givenClause, h]

/-- **The default clauses of a definition.** A column that is given no default has none but the one
that ends its type, if any. A column that is given a default has the clause for it, and its type
ends in another one exactly where it holds a moment that may not be null. -/
theorem definition_default_clauses (h : c.definition table = .ok d) :
    ∃ type identity, c.typeText = .ok type ∧ identityClause table c = .ok identity ∧
      d = valueReference c.name ++ forColumnClause c ++ " " ++ type ++ nullClause c ++
        defaultClause c ++ generatedClause c ++ identity ++ startClause c ++ beforeClause c ++
        hiddenClause c ∧
      (c.defaultValue.isNull = true → defaultClause c = "" ∧
        (EndsInDefault type → EndsInOneDefault type)) ∧
      (c.defaultValue.isNull = false →
        defaultClause c = " default " ++ defaultLiteral c.defaultValue ∧
        (EndsInDefault type ↔ c.type.IsMoment ∧ c.nullable.truthy = false)) := by
  obtain ⟨type, identity, htype, hidentity, hd⟩ := definition_eq_ok h
  refine ⟨type, identity, htype, hidentity, hd, fun hnull => ?_, fun hgiven => ?_⟩
  · refine ⟨defaultClause_of_null hnull, fun hends => ?_⟩
    rcases typeText_cases htype with ⟨-, hone⟩ | ⟨-, hnone⟩
    · exact hone
    · exact absurd hends hnone
  · refine ⟨defaultClause_of_given hgiven, ?_⟩
    rw [endsInDefault_iff htype, Column.HasTypeDefault, hgiven]
    simp

/-- A boolean that is given a default leaves it to the default clause. -/
theorem definition_default_clauses_boolean :
    let c : Column := { type := .boolean, name := .text "active",
                        constraintTable := .text "users", defaultValue := .flag true }
    let type := "smallint constraint boolean_users_active check(active in(0, 1))"
    c.definition "users" = .ok ("active " ++ type ++ " not null default '1'") ∧
      c.defaultValue.isNull = false ∧ c.typeText = .ok type ∧ ¬ EndsInDefault type ∧
      defaultClause c = " default '1'" := by
  intro c type
  have hd : c.definition "users" = .ok ("active " ++ type ++ " not null default '1'") :=
    congrArg Except.ok (by decide)
  have htype : c.typeText = .ok type := congrArg Except.ok (by decide)
  obtain ⟨written, identity, hwritten, -, -, -, hgiven⟩ := definition_default_clauses hd
  obtain rfl : type = written := Except.ok.inj (htype.symm.trans hwritten)
  obtain ⟨hclause, hends⟩ := hgiven rfl
  refine ⟨hd, rfl, htype, ?_, hclause⟩
  rw [hends]
  simp [ColumnType.IsMoment, c]

/-- A date that may not be null is given a default, and its definition has two. -/
theorem date_default_twice :
    let c : Column := { type := .date, name := .text "born", defaultValue := .text "2000-01-01" }
    c.defaultValue.isNull = false ∧ c.typeText = .ok "date default current_date" ∧
      EndsInDefault "date default current_date" ∧
      c.definition "users" =
        .ok "born date default current_date not null default '2000-01-01'" :=
  ⟨rfl, rfl, by decide, congrArg Except.ok (by decide)⟩

end Db2Client.Schema
