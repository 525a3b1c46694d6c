import Db2Client.Proofs.Text.LowerCase
import Db2Client.Schema.Naming

/-!
# Conventional names with and without a schema

A conventional name is built from the table as it is qualified, in lower case and with underscores
for dashes and points. The schema is looked for in it as it was given, in lower case but with its
dashes. So a schema is found exactly when neither it nor the table prefix has a dash.

* `withoutSchema_eq_self_iff`: a name is left alone exactly when no schema is found in it.
* `indexName_toList`: the characters of a conventional name.
* `constraintName_qualified_iff`: the conventional name on a qualified table becomes the one on the
  table itself exactly when there is no dash.
-/

namespace Db2Client.Schema

open Text

/-! ## Taking out a schema -/

/-- The schema follows the table prefix at the front of the name, in either case, and an underscore
or a point follows it. -/
def FindsSchema (tablePrefix schema name : List Char) : Prop :=
  lowerAfter [] schema ≠ [] ∧
    ∃ sep, (sep = '_' ∨ sep = '.') ∧
      lowerAfter [] tablePrefix ++ lowerAfter [] schema ++ [sep] <+: lowerAfter [] name

theorem headed_iff (p s : List Char) (sep : Char) (name : List Char) :
    headed p s sep name = true ↔ p ++ s ++ [sep] <+: lowerAfter [] name :=
  List.isPrefixOf_iff_prefix

theorem findsSchema_iff (tablePrefix schema name : List Char) :
    FindsSchema tablePrefix schema name ↔
      lowerAfter [] schema ≠ [] ∧
        (headed (lowerAfter [] tablePrefix) (lowerAfter [] schema) '_' name ||
          headed (lowerAfter [] tablePrefix) (lowerAfter [] schema) '.' name) = true := by
  simp only [FindsSchema, Bool.or_eq_true, headed_iff, or_and_right, exists_or, exists_eq_left]

theorem withoutSchema_of_found {tablePrefix schema name : List Char}
    (h : FindsSchema tablePrefix schema name) :
    withoutSchema tablePrefix schema name =
      name.take (lowerAfter [] tablePrefix).length ++
        name.drop ((lowerAfter [] tablePrefix).length + (lowerAfter [] schema).length + 1) := by
  obtain ⟨hschema, hheaded⟩ := (findsSchema_iff _ _ _).1 h
  have hne : (lowerAfter [] schema).isEmpty = false := by simpa using hschema
  simp only [withoutSchema, hne, Bool.false_eq_true, if_false, hheaded, if_true]

theorem withoutSchema_of_not_found {tablePrefix schema name : List Char}
    (h : ¬ FindsSchema tablePrefix schema name) :
    withoutSchema tablePrefix schema name = name := by
  rw [findsSchema_iff, not_and] at h
  unfold withoutSchema
  dsimp only
  split
  · rfl
  · rename_i hschema
    have hheaded := h (by simpa using hschema)
    rw [if_neg hheaded]

/-- **A name is left alone exactly when no schema is found in it**, unless the table prefix makes up
the whole name. -/
theorem withoutSchema_eq_self_iff {tablePrefix schema name : List Char}
    (hname : (lowerAfter [] tablePrefix).length < name.length) :
    withoutSchema tablePrefix schema name = name ↔ ¬ FindsSchema tablePrefix schema name := by
  constructor
  · intro heq hfound
    have hpos : 0 < (lowerAfter [] schema).length := List.length_pos_iff.2 hfound.1
    have hlength := congrArg List.length heq
    rw [withoutSchema_of_found hfound, List.length_append, List.length_take, List.length_drop]
      at hlength
    omega
  · exact withoutSchema_of_not_found

/-! ## Conventional names -/

theorem indexName_eq (tablePrefix table : String) (columns : List String) (kind : String) :
    (indexName tablePrefix table columns kind).toList =
      replaceAll ['-', '.'] '_' (lowerAfter [] ((tablePrefix.toList ++ table.toList) ++
        '_' :: (join "_" columns ++ "_" ++ kind).toList)) := by
  simp [indexName, lower]

theorem length_tablePrefix_lt (tablePrefix table : String) (columns : List String)
    (kind : String) :
    (lowerAfter [] tablePrefix.toList).length <
      (indexName tablePrefix table columns kind).toList.length := by
  have hunderscore : (lowerAfter [] ['_']).length = 1 := rfl
  have hcons : '_' :: (join "_" columns ++ "_" ++ kind).toList =
      ['_'] ++ (join "_" columns ++ "_" ++ kind).toList := rfl
  rw [indexName_eq, replaceAll, List.length_map, hcons, length_lowerAfter_append,
    length_lowerAfter_append, length_lowerAfter_append, hunderscore]
  omega

/-- A character of a table's name as it stands in a conventional name. -/
def conventionalChar (c : Char) : Char := if c.toLower ∈ ['-', '.'] then '_' else c.toLower

/-- The part of a conventional name behind the table. It is the same for every table. -/
def nameTail (columns : List String) (kind : String) : List Char :=
  replaceAll ['-', '.'] '_' (lowerAfter ['_'] (join "_" columns ++ "_" ++ kind).toList)

/-- **The characters of a conventional name**, where prefix and table are plain names. -/
theorem indexName_toList {tablePrefix table : String}
    (h : IsNameText (tablePrefix.toList ++ table.toList)) (columns : List String)
    (kind : String) :
    (indexName tablePrefix table columns kind).toList =
      (tablePrefix.toList ++ table.toList).map conventionalChar ++
        '_' :: nameTail columns kind := by
  rw [indexName_eq, lowerAfter_name h, lowerAfter_underscore, replaceAll, List.map_append,
    List.map_map]
  rfl

/-! ## Qualified and unqualified tables -/

/-- A plain name: ASCII letters and digits, underscores and dashes. -/
def IsPlainName (s : String) : Prop := ∀ c ∈ s.toList, IsNameChar c

instance (s : String) : Decidable (IsPlainName s) := List.decidableBAll IsNameChar s.toList

theorem isNameText_of_isPlainName {s : String} (h : IsPlainName s) : IsNameText s.toList :=
  fun c hc => .inl (h c hc)

theorem IsPlainName.no_point {s : String} (h : IsPlainName s) : '.' ∉ s.toList := by
  intro hpoint
  have hname := h '.' hpoint
  revert hname
  decide

/-- What a conventional name makes of a character is a lower-case letter, a digit or an underscore,
and it is the character in lower case unless that is a dash. -/
theorem conventionalChar_name {c : Char} (h : IsNameChar c) :
    IsNameChar (conventionalChar c) ∧ (conventionalChar c).toLower = conventionalChar c ∧
      (conventionalChar c = c.toLower ↔ c ≠ '-') := by
  refine ascii_forall (P := fun c => IsNameChar c → IsNameChar (conventionalChar c) ∧
    (conventionalChar c).toLower = conventionalChar c ∧
      (conventionalChar c = c.toLower ↔ c ≠ '-')) ?_ (toNat_lt_of_isNameChar (.inl h)) h
  decide +kernel

theorem lower_plain {s : String} (h : IsPlainName s) :
    lowerAfter [] s.toList = s.toList.map Char.toLower := by
  have hlower := lowerAfter_name (isNameText_of_isPlainName h) [] []
  rwa [List.append_nil, lowerAfter, List.append_nil] at hlower

/-- The conventional form is the lower-case form exactly where there is no dash. -/
theorem map_conventionalChar_eq_iff {cs : List Char} (h : ∀ c ∈ cs, IsNameChar c) :
    cs.map conventionalChar = cs.map Char.toLower ↔ '-' ∉ cs := by
  rw [List.map_inj_left]
  constructor
  · intro hsame hdash
    exact (conventionalChar_name (h '-' hdash)).2.2.1 (hsame '-' hdash) rfl
  · intro hdash c hc
    refine (conventionalChar_name (h c hc)).2.2.2 ?_
    rintro rfl
    exact hdash hc

theorem schemaOf_qualified {schema : String} (h : '.' ∉ schema.toList) (base : String) :
    schemaOf (schema ++ "." ++ base) = schema := by
  have hpieces : pieces '.' (schema ++ "." ++ base).toList =
      schema.toList :: pieces '.' base.toList := by
    have hsplit : (schema ++ "." ++ base).toList = schema.toList ++ '.' :: base.toList := by simp
    rw [hsplit, pieces_append h]
  obtain ⟨p, more, hbase⟩ := List.exists_cons_of_ne_nil (pieces_ne_nil '.' base.toList)
  rw [schemaOf, cut, hpieces, hbase]
  exact String.ofList_toList

theorem schemaOf_unqualified {base : String} (h : '.' ∉ base.toList) : schemaOf base = "" := by
  simp [schemaOf, cut, pieces_of_notMem h]

/-- **When a schema is found.** It stands behind the table prefix in the name, but a dash in either
of them is an underscore there. -/
theorem findsSchema_conventional_iff {tablePrefix schema : String}
    (hpre : IsPlainName tablePrefix) (hschema : IsPlainName schema) (hne : schema ≠ "")
    (more : List Char) :
    FindsSchema tablePrefix.toList schema.toList
        ((tablePrefix.toList ++ schema.toList).map conventionalChar ++ '_' :: more) ↔
      '-' ∉ tablePrefix.toList ++ schema.toList := by
  have hname : ∀ c ∈ tablePrefix.toList ++ schema.toList, IsNameChar c :=
    List.forall_mem_append.2 ⟨hpre, hschema⟩
  have hnonempty : schema.toList.map Char.toLower ≠ [] := by simpa using hne
  have hlowered : lowerAfter []
      ((tablePrefix.toList ++ schema.toList).map conventionalChar ++ '_' :: more) =
        (tablePrefix.toList ++ schema.toList).map conventionalChar ++
          '_' :: lowerAfter ['_'] more := by
    have htext : IsNameText ((tablePrefix.toList ++ schema.toList).map conventionalChar) := by
      intro d hd
      obtain ⟨c, hc, rfl⟩ := List.mem_map.1 hd
      exact .inl (conventionalChar_name (hname c hc)).1
    rw [lowerAfter_name htext, lowerAfter_underscore, List.map_map]
    congr 1
    refine List.map_congr_left fun c hc => ?_
    exact (conventionalChar_name (hname c hc)).2.1
  rw [FindsSchema, lower_plain hpre, lower_plain hschema, hlowered, ← List.map_append,
    ← map_conventionalChar_eq_iff hname]
  -- What is looked for is as long as what stands there, so it is found only if it is the same.
  constructor
  · rintro ⟨-, sep, -, rest, hrest⟩
    rw [List.append_assoc] at hrest
    exact (List.append_inj_left hrest (by simp)).symm
  · intro hsame
    refine ⟨hnonempty, '_', .inl rfl, lowerAfter ['_'] more, ?_⟩
    rw [hsame, List.append_assoc, List.singleton_append]

/-- The conventional names on a table with and without its schema, prefix and tail being the
same. -/
theorem indexName_qualified {tablePrefix schema base : String} (hpre : IsPlainName tablePrefix)
    (hschema : IsPlainName schema) (hbase : IsPlainName base) (columns : List String)
    (kind : String) :
    ∃ more : List Char,
      (indexName tablePrefix (schema ++ "." ++ base) columns kind).toList =
        (tablePrefix.toList ++ schema.toList).map conventionalChar ++ '_' :: more ∧
      (indexName tablePrefix base columns kind).toList =
        tablePrefix.toList.map conventionalChar ++ more := by
  have hp := isNameText_of_isPlainName hpre
  have hs := isNameText_of_isPlainName hschema
  have hb := isNameText_of_isPlainName hbase
  have hpoint : IsNameText ['.'] := by simp [IsNameText]
  have hqualified : (schema ++ "." ++ base).toList = schema.toList ++ (['.'] ++ base.toList) := by
    simp
  have hcharacter : conventionalChar '.' = '_' := rfl
  refine ⟨base.toList.map conventionalChar ++ '_' :: nameTail columns kind, ?_, ?_⟩
  · have htext : IsNameText (tablePrefix.toList ++ (schema ++ "." ++ base).toList) := by
      rw [hqualified]
      exact hp.append (hs.append (hpoint.append hb))
    rw [indexName_toList htext, hqualified]
    simp [hcharacter]
  · rw [indexName_toList (hp.append hb), List.map_append, List.append_assoc]

/-- **The schema leaves no trace in a constraint's name exactly when there is no dash** in it or in
the table prefix. -/
theorem constraintName_qualified_iff {tablePrefix schema base : String}
    (hpre : IsPlainName tablePrefix) (hschema : IsPlainName schema) (hne : schema ≠ "")
    (hbase : IsPlainName base) (columns : List String) (kind : String) :
    constraintName tablePrefix (schema ++ "." ++ base)
        (indexName tablePrefix (schema ++ "." ++ base) columns kind) =
      constraintName tablePrefix base (indexName tablePrefix base columns kind) ↔
      '-' ∉ tablePrefix.toList ∧ '-' ∉ schema.toList := by
  obtain ⟨more, hqualified, hunqualified⟩ :=
    indexName_qualified hpre hschema hbase columns kind
  have hfinds := findsSchema_conventional_iff hpre hschema hne more
  have hnone : ¬ FindsSchema tablePrefix.toList "".toList
      (indexName tablePrefix base columns kind).toList := by
    rintro ⟨hempty, -⟩
    exact hempty rfl
  rw [constraintName, constraintName, schemaOf_qualified hschema.no_point,
    schemaOf_unqualified hbase.no_point, withoutSchema_of_not_found hnone, String.ofList_toList,
    ← String.toList_inj, String.toList_ofList, hqualified, hunqualified, ← not_or,
    ← List.mem_append]
  constructor
  -- With a dash the schema is not found, and then the name is longer than the other one.
  · intro heq hdash
    rw [withoutSchema_of_not_found fun hfound => hfinds.1 hfound hdash] at heq
    have hlength := congrArg List.length heq
    simp at hlength
    omega
  · intro hdash
    have hp : (lowerAfter [] tablePrefix.toList).length =
        (tablePrefix.toList.map conventionalChar).length := by simp [lower_plain hpre]
    have hs : (lowerAfter [] schema.toList).length =
        (schema.toList.map conventionalChar).length := by simp [lower_plain hschema]
    rw [withoutSchema_of_found (hfinds.2 hdash), hp, hs, List.map_append, List.append_assoc,
      List.take_left, Nat.add_assoc, ← List.drop_drop, List.drop_left]
    simp [List.drop_append]

end Db2Client.Schema
