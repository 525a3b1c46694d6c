import Db2Client.Proofs.Schema.DefaultClauses
import Db2Client.Proofs.Sql.LiteralReading
import Db2Client.Schema.Statement

/-!
# Text that is written into a statement

The values of an enumeration, the label of a table, a default and a system command are written as
literals. Whoever reads the statement finds the text that was given, and the literal ends where it
was meant to end. So no text can add anything to a statement.

* `enumeration_read`: the values of an enumeration, each by itself.
* `definition_holds_default`: the default in the definition of a column.
* `literals_read_back`: every kind of literal.
-/

namespace Db2Client.Schema

open Number Sql Text

/-! ## Enumerations -/

/-- The values of the enumeration at the front of a text, and what follows it. -/
def readEnumeration? : List Char → Option (List (List Char) × List Char)
  | 'e' :: 'n' :: 'u' :: 'm' :: '(' :: ')' :: after => some ([], after)
  | 'e' :: 'n' :: 'u' :: 'm' :: '(' :: items => readItems? items
  | _ => none

/-- The enumeration of some texts. -/
def enumerationOf (texts : List String) : String := "enum(" ++ join ", " (texts.map literal) ++ ")"

theorem enumerationType_eq {allowed : Value} {values : List Value}
    (h : allowed.items? = some values) :
    enumerationType allowed = .ok (enumerationOf (values.map Value.plain)) := by
  simp [enumerationType, h, enumerationOf, Function.comp_def]

/-- **An enumeration is read back value by value.** -/
theorem enumeration_read (texts : List String) (after : List Char) :
    readEnumeration? ((enumerationOf texts).toList ++ after) =
      some (texts.map String.toList, after) := by
  cases texts with
  | nil => rfl
  | cons text texts =>
    have hitems := readItems?_join text texts after
    have hopen : (enumerationOf (text :: texts)).toList ++ after =
        'e' :: 'n' :: 'u' :: 'm' :: '(' ::
          ((join ", " ((text :: texts).map literal)).toList ++ ')' :: after) := by
      simp [enumerationOf]
    rw [hopen, readEnumeration?, hitems]
    -- The first item opens with a quote, so the list is not taken for an empty one.
    intro rest hrest
    have hfirst : ∃ more, (join ", " ((text :: texts).map literal)).toList = '\'' :: more := by
      cases texts <;> simp [join, literalChars]
    obtain ⟨more, hmore⟩ := hfirst
    rw [hmore] at hrest
    simp at hrest

theorem enumerationOf_injective {texts others : List String}
    (h : enumerationOf texts = enumerationOf others) : texts = others := by
  have hread := enumeration_read texts []
  rw [h, enumeration_read others [], Option.some.injEq, Prod.mk.injEq] at hread
  exact ((List.map_inj_right fun _ _ => String.toList_inj.1).1 hread.1).symm

/-! ## Defaults -/

/-- A value that a default clause writes as a literal. Flags are written as numbers and raw SQL as
it is. -/
def IsQuotedDefault : Value → Prop
  | .flag _ | .rawSql _ => False
  | _ => True

theorem defaultLiteral_of_quoted {v : Value} (h : IsQuotedDefault v) :
    defaultLiteral v = literal v.plain := by
  cases v with
  | flag b => exact h.elim
  | rawSql fragment => exact h.elim
  | _ => rfl

theorem opensNoQuote_givenClause (v : Value) {clause : Value → String}
    (h : ∀ v, OpensNoQuote (clause v)) : OpensNoQuote (givenClause v clause) := by
  unfold givenClause
  split
  · simp [OpensNoQuote]
  · exact h v

theorem opensNoQuote_generated (c : Column) : OpensNoQuote (generatedClause c) := by
  refine opensNoQuote_givenClause c.generated fun v => ?_
  split
  · simp [OpensNoQuote]
  · simp [OpensNoQuote]

theorem opensNoQuote_identity {table : String} {c : Column} {s : String}
    (h : identityClause table c = .ok s) : OpensNoQuote s := by
  unfold identityClause at h
  split at h
  · cases h
    simp [OpensNoQuote]
  · split at h
    · cases h
      simp [OpensNoQuote]
    · cases h

theorem opensNoQuote_start (c : Column) : OpensNoQuote (startClause c) :=
  opensNoQuote_givenClause c.startWith fun v => by simp [OpensNoQuote]

theorem opensNoQuote_before (c : Column) : OpensNoQuote (beforeClause c) :=
  opensNoQuote_givenClause c.before fun v => by simp [OpensNoQuote]

theorem opensNoQuote_hidden (c : Column) : OpensNoQuote (hiddenClause c) := by
  unfold hiddenClause
  split
  · simp [OpensNoQuote]
  · simp [OpensNoQuote]

/-- What stands before the default in the definition of a column. -/
def beforeDefault (c : Column) (type : String) : String :=
  valueReference c.name ++ forColumnClause c ++ " " ++ type ++ nullClause c ++ " default "

/-- **The default in the definition of a column is read back**, and the clauses after it are none
of its doing. -/
theorem definition_holds_default {table : String} {c : Column} {d : String}
    (hdefault : c.defaultValue.isNull = false) (hquoted : IsQuotedDefault c.defaultValue)
    (h : c.definition table = .ok d) :
    ∃ type after, c.typeText = .ok type ∧
      Holds d (beforeDefault c type) c.defaultValue.plain after := by
  obtain ⟨type, identity, htype, hidentity, hd⟩ := definition_eq_ok h
  have hclause : defaultClause c = " default " ++ literal c.defaultValue.plain := by
    rw [defaultClause_of_given hdefault, defaultLiteral_of_quoted hquoted]
  have hafter : OpensNoQuote (generatedClause c ++ identity ++ startClause c ++
      beforeClause c ++ hiddenClause c) :=
    ((((opensNoQuote_generated c).append (opensNoQuote_identity hidentity)).append
      (opensNoQuote_start c)).append (opensNoQuote_before c)).append (opensNoQuote_hidden c)
  have hsplit : d = beforeDefault c type ++ literal c.defaultValue.plain ++
      (generatedClause c ++ identity ++ startClause c ++ beforeClause c ++ hiddenClause c) := by
    rw [hd, hclause]
    simp [beforeDefault, String.append_assoc]
  rw [hsplit]
  exact ⟨type, _, htype, holds_literal (beforeDefault c type) c.defaultValue.plain hafter⟩

/-! ## Commands -/

theorem systemCall_holds (command after : String) :
    Holds (systemCall command ++ after) "CALL QSYS2.QCMDEXC(" command (")" ++ after) := by
  have hclose : OpensNoQuote (")" ++ after) := by simp [OpensNoQuote]
  have hsplit : systemCall command ++ after =
      "CALL QSYS2.QCMDEXC(" ++ literal command ++ (")" ++ after) := by
    unfold systemCall
    exact String.append_assoc ..
  rw [hsplit]
  exact holds_literal "CALL QSYS2.QCMDEXC(" command hclose

/-- A label is read back from its statement, and nothing follows it. -/
theorem label_holds (bp : Blueprint) (number : Option Int) {c : Command} (hc : c.kind = .label) :
    ∃ s, c.statements bp number = .ok [s] ∧
      Holds s ("label on table " ++ tableName bp.table ++ " is ") c.label.plain "" := by
  have hend : OpensNoQuote "" := by simp [OpensNoQuote]
  have hlabel := holds_literal ("label on table " ++ tableName bp.table ++ " is ") c.label.plain
    hend
  rw [String.append_empty] at hlabel
  exact ⟨_, by simp only [Command.statements, hc], hlabel⟩

/-! ## Every literal -/

/-- **Every text that is written as a literal is read back.** What follows the literal may be
anything but another quote. The values of an enumeration come back in order and each by itself, so
different values make different enumerations. -/
theorem literals_read_back {after : String} (hafter : OpensNoQuote after) :
    (∀ v : Value, Holds (literal v.plain ++ after) "" v.plain after) ∧
    (∀ (allowed : Value) (values : List Value), allowed.items? = some values →
      ∃ t, enumerationType allowed = .ok t ∧
        readEnumeration? (t ++ after).toList =
          some (values.map fun v => v.plain.toList, after.toList)) ∧
    (∀ (allowed others : Value) (values otherValues : List Value),
      allowed.items? = some values → others.items? = some otherValues →
      enumerationType allowed = enumerationType others →
      values.map Value.plain = otherValues.map Value.plain) ∧
    (∀ command : String,
      Holds (systemCall command ++ after) "CALL QSYS2.QCMDEXC(" command (")" ++ after)) ∧
    (∀ (bp : Blueprint) (number : Option Int) (c : Command), c.kind = .label →
      ∃ s, c.statements bp number = .ok [s] ∧
        Holds s ("label on table " ++ tableName bp.table ++ " is ") c.label.plain "") ∧
    (∀ v : Value, IsQuotedDefault v → Holds (defaultLiteral v ++ after) "" v.plain after) ∧
    (∀ (table : String) (c : Column) (d : String), c.defaultValue.isNull = false →
      IsQuotedDefault c.defaultValue → c.definition table = .ok d →
      ∃ type rest, c.typeText = .ok type ∧
        Holds d (beforeDefault c type) c.defaultValue.plain rest) := by
  have hliteral : ∀ v : Value, Holds (literal v.plain ++ after) "" v.plain after := by
    intro v
    have hv := holds_literal "" v.plain hafter
    rwa [String.empty_append] at hv
  have henumeration : ∀ (allowed : Value) (values : List Value), allowed.items? = some values →
      ∃ t, enumerationType allowed = .ok t ∧ readEnumeration? (t ++ after).toList =
        some (values.map fun v => v.plain.toList, after.toList) := by
    intro allowed values hvalues
    refine ⟨_, enumerationType_eq hvalues, ?_⟩
    rw [String.toList_append, enumeration_read, List.map_map]
    rfl
  have hdifferent : ∀ (allowed others : Value) (values otherValues : List Value),
      allowed.items? = some values → others.items? = some otherValues →
      enumerationType allowed = enumerationType others →
      values.map Value.plain = otherValues.map Value.plain := by
    intro allowed others values otherValues hvalues hothers h
    rw [enumerationType_eq hvalues, enumerationType_eq hothers, Except.ok.injEq] at h
    exact enumerationOf_injective h
  have hdefault : ∀ v : Value, IsQuotedDefault v →
      Holds (defaultLiteral v ++ after) "" v.plain after := by
    intro v hv
    rw [defaultLiteral_of_quoted hv]
    exact hliteral v
  exact ⟨hliteral, henumeration, hdifferent, fun command => systemCall_holds command after,
    fun bp number c hc => label_holds bp number hc, hdefault,
    fun table c d hgiven hquoted h => definition_holds_default hgiven hquoted h⟩

/-- A value that looks like the end of one literal and the beginning of the next. -/
theorem literals_read_back_separator :
    OpensNoQuote ")" ∧ Holds (literal "a', 'b" ++ ")") "" "a', 'b" ")" ∧
      readEnumeration? ("enum('a'', ''b', '', '''')" ++ ")").toList =
        some (["a', 'b".toList, [], ['\'']], [')']) := by
  have hafter : OpensNoQuote ")" := by simp [OpensNoQuote]
  obtain ⟨hliteral, henumeration, -⟩ := literals_read_back hafter
  obtain ⟨t, ht, hread⟩ := henumeration (.list [.text "a', 'b", .text "", .text "'"]) _ rfl
  have htext : t = "enum('a'', ''b', '', '''')" := by
    cases ht
    decide
  rw [htext] at hread
  exact ⟨hafter, hliteral (.text "a', 'b"), hread⟩

end Db2Client.Schema
