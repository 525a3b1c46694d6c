import Db2Client.Proofs.Schema.ConventionalName
import Db2Client.Proofs.Text.LowerAscii

/-!
# Taking the schema out of a name

The schema is looked for in the name in lower case, but it is cut out of the name as it was given,
by the lengths of the prefix and the schema. The two agree because an ASCII prefix and an ASCII
schema are the lower case of exactly as many characters, even in a name with characters whose lower
case is longer. So the schema that is found is the one that a reader of the name would see
(`SchemaSplit`), and the prefix before it and the rest behind it stay as they were written.

Main result: `constraintName_removes_schema`.
-/

namespace Db2Client.Schema

open Text

/-- The name begins with the table prefix and the schema, in any case, and a separator. -/
structure SchemaSplit (tablePrefix schema name front middle sep rest : String) : Prop where
  name_eq : name = front ++ middle ++ sep ++ rest
  lower_front : lower front = lower tablePrefix
  lower_middle : lower middle = lower schema
  isSeparator : sep = "_" ∨ sep = "."

section

variable {tablePrefix schema name front middle sep rest : String}

theorem lower_eq_iff_lowersTo {s t : String} (ht : IsAsciiText t.toList) :
    lower s = lower t ↔ LowersTo s.toList (lowerAfter [] t.toList) := by
  have hlower : lower s = lower t ↔ lowerAfter [] s.toList = lowerAfter [] t.toList := by
    rw [lower, lower, ← String.toList_inj, String.toList_ofList, String.toList_ofList]
  rw [hlower]
  exact lowerAfter_eq_iff (lowersTo_lowerAfter ht).2

/-- Prefix and schema have as many characters in the name as they have in lower case. -/
theorem SchemaSplit.lengths (h : SchemaSplit tablePrefix schema name front middle sep rest)
    (hpre : IsAsciiText tablePrefix.toList) (hschema : IsAsciiText schema.toList) :
    front.toList.length = (lowerAfter [] tablePrefix.toList).length ∧
      middle.toList.length = (lowerAfter [] schema.toList).length ∧ sep.toList.length = 1 := by
  refine ⟨((lower_eq_iff_lowersTo hpre).1 h.lower_front).length_eq,
    ((lower_eq_iff_lowersTo hschema).1 h.lower_middle).length_eq, ?_⟩
  rcases h.isSeparator with rfl | rfl <;> rfl

theorem SchemaSplit.toList (h : SchemaSplit tablePrefix schema name front middle sep rest) :
    name.toList = front.toList ++ (middle.toList ++ (sep.toList ++ rest.toList)) := by
  rw [h.name_eq]
  simp

/-- **There is at most one way to read a schema in a name.** -/
theorem SchemaSplit.unique {front' middle' sep' rest' : String}
    (h : SchemaSplit tablePrefix schema name front middle sep rest)
    (h' : SchemaSplit tablePrefix schema name front' middle' sep' rest')
    (hpre : IsAsciiText tablePrefix.toList) (hschema : IsAsciiText schema.toList) :
    front = front' ∧ middle = middle' ∧ sep = sep' ∧ rest = rest' := by
  obtain ⟨hfront, hmiddle, hsep⟩ := h.lengths hpre hschema
  obtain ⟨hfront', hmiddle', hsep'⟩ := h'.lengths hpre hschema
  obtain ⟨heqFront, hbehind⟩ :=
    List.append_inj (h.toList.symm.trans h'.toList) (hfront.trans hfront'.symm)
  obtain ⟨heqMiddle, hbehind⟩ := List.append_inj hbehind (hmiddle.trans hmiddle'.symm)
  obtain ⟨heqSep, heqRest⟩ := List.append_inj hbehind (hsep.trans hsep'.symm)
  exact ⟨String.toList_inj.1 heqFront, String.toList_inj.1 heqMiddle, String.toList_inj.1 heqSep,
    String.toList_inj.1 heqRest⟩

theorem SchemaSplit.findsSchema (h : SchemaSplit tablePrefix schema name front middle sep rest)
    (hpre : IsAsciiText tablePrefix.toList) (hschema : IsAsciiText schema.toList)
    (hne : schema ≠ "") :
    FindsSchema tablePrefix.toList schema.toList name.toList := by
  have hfront := (lower_eq_iff_lowersTo hpre).1 h.lower_front
  have hmiddle := (lower_eq_iff_lowersTo hschema).1 h.lower_middle
  obtain ⟨c, hc, hseparator, hlower⟩ : ∃ c : Char, sep.toList = [c] ∧ (c = '_' ∨ c = '.') ∧
      LowersTo sep.toList [c] := by
    rcases h.isSeparator with rfl | rfl
    · exact ⟨'_', rfl, .inl rfl, .cons (by decide +kernel) .nil⟩
    · exact ⟨'.', rfl, .inr rfl, .cons (by decide +kernel) .nil⟩
  have hascii : IsAsciiText [c] := by
    rcases hseparator with rfl | rfl <;> decide
  refine ⟨fun hempty => hne ?_, c, hseparator, ?_⟩
  · exact String.toList_eq_nil_iff.1 (lowerAfter_eq_nil hempty)
  · rw [h.toList, lowerAfter_of_lowersTo hfront (lowersTo_lowerAfter hpre).2,
      lowerAfter_of_lowersTo hmiddle (lowersTo_lowerAfter hschema).2,
      lowerAfter_of_lowersTo hlower hascii, List.append_assoc, List.prefix_append_right_inj,
      List.prefix_append_right_inj]
    exact List.prefix_append ..

/-- **A schema that is found in lower case can be read in the name.** -/
theorem exists_schemaSplit (hpre : IsAsciiText tablePrefix.toList)
    (hschema : IsAsciiText schema.toList)
    (h : FindsSchema tablePrefix.toList schema.toList name.toList) :
    ∃ front middle sep rest, SchemaSplit tablePrefix schema name front middle sep rest := by
  obtain ⟨hne, c, hseparator, more, hmore⟩ := h
  have hpreAscii := (lowersTo_lowerAfter hpre).2
  have hschemaAscii := (lowersTo_lowerAfter hschema).2
  have hc : c.toNat < 128 := by
    rcases hseparator with rfl | rfl <;> decide
  have hi : c ≠ 'i' := by
    rcases hseparator with rfl | rfl <;> decide
  -- First the prefix is taken off the name, then the schema, and then the separator.
  have hname : lowerAfter [] name.toList = lowerAfter [] tablePrefix.toList ++
      (lowerAfter [] schema.toList ++ c :: more) := by
    rw [← hmore]
    simp
  have hhead : ∀ e ∈ (lowerAfter [] schema.toList ++ c :: more).head?, e.toNat < 128 := by
    intro e he
    rw [List.head?_append_of_ne_nil _ hne] at he
    exact hschemaAscii e (List.mem_of_mem_head? he)
  obtain ⟨front, behind, hsplit, hfront, hbehind⟩ := exists_lowersTo hname hpreAscii hhead
  have hhead' : ∀ e ∈ (c :: more).head?, e.toNat < 128 := by
    rintro e ⟨⟩
    exact hc
  obtain ⟨middle, behind, rfl, hmiddle, hbehind⟩ := exists_lowersTo hbehind hschemaAscii hhead'
  obtain ⟨c', rest, rfl, hlower, -⟩ :=
    exists_of_lowerAfter_eq_cons hbehind hc fun heq => absurd heq hi
  obtain rfl := eq_of_lowerChar_eq hseparator hlower
  refine ⟨String.ofList front, String.ofList middle, String.ofList [c'], String.ofList rest, ?_⟩
  refine ⟨?_, (lower_eq_iff_lowersTo hpre).2 (by rwa [String.toList_ofList]),
    (lower_eq_iff_lowersTo hschema).2 (by rwa [String.toList_ofList]), ?_⟩
  · rw [← String.toList_inj, hsplit]
    simp
  · rcases hseparator with rfl | rfl
    · exact .inl rfl
    · exact .inr rfl

end

/-- **The schema is taken out of a constraint's name exactly once.** Where a table has a schema and
the name begins with the table prefix and that schema, in any case, and a separator, the name is
left with its prefix and its rest as they were written. It can begin so in one way only. Where it
does not, or there is no schema, the name stays as it is. -/
theorem constraintName_removes_schema {tablePrefix table : String}
    (hpre : IsAsciiText tablePrefix.toList) (hschema : IsAsciiText (schemaOf table).toList)
    (name : String) :
    (∀ front middle sep rest, schemaOf table ≠ "" →
      SchemaSplit tablePrefix (schemaOf table) name front middle sep rest →
      constraintName tablePrefix table name = front ++ rest) ∧
    ((schemaOf table = "" ∨ ¬ ∃ front middle sep rest,
        SchemaSplit tablePrefix (schemaOf table) name front middle sep rest) →
      constraintName tablePrefix table name = name) ∧
    (∀ front middle sep rest front' middle' sep' rest',
      SchemaSplit tablePrefix (schemaOf table) name front middle sep rest →
      SchemaSplit tablePrefix (schemaOf table) name front' middle' sep' rest' →
      front = front' ∧ middle = middle' ∧ sep = sep' ∧ rest = rest') := by
  refine ⟨fun front middle sep rest hne hsplit => ?_, fun h => ?_,
    fun front middle sep rest front' middle' sep' rest' h h' => h.unique h' hpre hschema⟩
  -- The name is cut by lengths in lower case, which are those of the parts as written.
  · obtain ⟨hfront, hmiddle, hsep⟩ := hsplit.lengths hpre hschema
    rw [constraintName, withoutSchema_of_found (hsplit.findsSchema hpre hschema hne),
      ← String.toList_inj, String.toList_ofList, ← hfront, ← hmiddle, ← hsep, hsplit.toList,
      List.take_left, Nat.add_assoc, ← List.drop_drop, List.drop_left, ← List.drop_drop,
      List.drop_left, List.drop_left, String.toList_append]
  · have hnot : ¬ FindsSchema tablePrefix.toList (schemaOf table).toList name.toList := by
      intro hfound
      rcases h with hempty | hnone
      · rw [hempty] at hfound
        exact hfound.1 rfl
      · exact hnone (exists_schemaSplit hpre hschema hfound)
    rw [constraintName, withoutSchema_of_not_found hnot, String.ofList_toList]

/-- The prefix in the name has a Kelvin sign, and behind the schema the name begins with the schema
again. -/
theorem constraintName_removes_schema_once :
    schemaOf "App.users" ≠ "" ∧
      SchemaSplit "Tk_" (schemaOf "App.users") "tK_aPP.app_İD" "tK_" "aPP" "." "app_İD" ∧
      constraintName "Tk_" "App.users" "tK_aPP.app_İD" = "tK_app_İD" := by
  have hne : schemaOf "App.users" ≠ "" := by decide
  have hsplit : SchemaSplit "Tk_" (schemaOf "App.users") "tK_aPP.app_İD" "tK_" "aPP" "." "app_İD" :=
    ⟨by decide, by decide +kernel, by decide +kernel, .inr rfl⟩
  obtain ⟨hremoves, -, -⟩ :=
    @constraintName_removes_schema "Tk_" "App.users" (by decide) (by decide) "tK_aPP.app_İD"
  exact ⟨hne, hsplit, hremoves "tK_" "aPP" "." "app_İD" hne hsplit⟩

end Db2Client.Schema
