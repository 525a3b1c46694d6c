import Mathlib.Data.List.Find
import Db2Client.Connection.ConnectionString
import Db2Client.Connection.Mask

/-!
# Masking works segment by segment

A marker holds no semicolon and a hidden value ends at one, so what is masked before a semicolon
does not depend on what follows it, and after it masking starts afresh (`maskFrom_append`).

An ODBC string has its password in a segment of its own, so two of them that differ in the password
alone are masked alike exactly when their password segments are
(`maskPassword_odbcString_iff`). A password without a semicolon leaves no trace
(`maskPassword_segment`); what follows a semicolon in a password is masked like any other text, and
so it shows (`maskPassword_segment_semicolon`).
-/

namespace Db2Client.Connection

open Text

/-! ## Markers -/

theorem not_sameFolded_semicolon :
    ∀ m ∈ passwordMarkers, ∀ c ∈ m, sameFolded c ';' = false := by
  have hall : (passwordMarkers.all fun m => m.all fun c => !sameFolded c ';') = true := by decide
  simpa only [List.all_eq_true, Bool.not_eq_true'] using hall

theorem length_of_marker : ∀ m ∈ passwordMarkers, 2 ≤ m.length := by decide

/-- A word without a semicolon is found in front of one or not at all. -/
theorem afterFolded?_append {word : List Char} (h : ∀ c ∈ word, sameFolded c ';' = false)
    (xs ys : List Char) :
    (afterFolded? word (xs ++ ';' :: ys)).isSome = (afterFolded? word xs).isSome := by
  induction word generalizing xs with
  | nil => rfl
  | cons w word ih =>
    obtain ⟨hw, hword⟩ := List.forall_mem_cons.1 h
    cases xs with
    | nil => simp [afterFolded?, hw]
    | cons x xs =>
      rw [List.cons_append, afterFolded?, afterFolded?]
      split
      · exact ih hword xs
      · rfl

theorem length_le_of_afterFolded? {word cs : List Char} (h : (afterFolded? word cs).isSome) :
    word.length ≤ cs.length := by
  induction word generalizing cs with
  | nil => exact Nat.zero_le _
  | cons w word ih =>
    cases cs with
    | nil => cases h
    | cons c cs =>
      rw [afterFolded?] at h
      split at h
      · exact Nat.succ_le_succ (ih h)
      · cases h

theorem markerLength?_append (xs ys : List Char) :
    markerLength? (xs ++ ';' :: ys) = markerLength? xs := by
  have hsame : ∀ m ∈ passwordMarkers,
      (afterFolded? m (xs ++ ';' :: ys)).isSome = (afterFolded? m xs).isSome := by
    intro m hm
    exact afterFolded?_append (not_sameFolded_semicolon m hm) xs ys
  rw [markerLength?, markerLength?, List.find?_congr hsame]

theorem markerLength?_eq_some {cs : List Char} {n : Nat} (h : markerLength? cs = some n) :
    2 ≤ n ∧ n ≤ cs.length := by
  obtain ⟨m, hm, rfl⟩ := Option.map_eq_some_iff.1 h
  have hfound : (afterFolded? m cs).isSome := by simpa using List.find?_some hm
  exact ⟨length_of_marker m (List.mem_of_find?_eq_some hm), length_le_of_afterFolded? hfound⟩

/-! ## Segments -/

/-- What is left of a marker fits into the text. -/
def MaskMode.Fits : MaskMode → List Char → Prop
  | .marker left, cs => 1 ≤ left ∧ left ≤ cs.length
  | _, _ => True

/-- **Segments are masked on their own.** -/
theorem maskFrom_append {mode : MaskMode} {xs : List Char} (h : mode.Fits xs) (ys : List Char) :
    maskFrom mode (xs ++ ';' :: ys) = maskFrom mode xs ++ ';' :: maskFrom .plain ys := by
  induction xs generalizing mode with
  | nil =>
    cases mode with
    | plain =>
      have hnone : markerLength? (';' :: ys) = none := markerLength?_append [] ys
      simp [maskFrom, hnone]
    | hidden => simp [maskFrom]
    | marker left =>
      obtain ⟨hleft, hlength⟩ := h
      exact absurd (Nat.le_trans hleft hlength) (by simp)
  | cons x xs ih =>
    have hplain : MaskMode.plain.Fits xs := trivial
    have hhidden : MaskMode.hidden.Fits xs := trivial
    rw [List.cons_append]
    cases mode with
    | plain =>
      have hmarker := markerLength?_append (x :: xs) ys
      rw [List.cons_append] at hmarker
      rw [maskFrom, maskFrom, hmarker]
      cases hfound : markerLength? (x :: xs) with
      | none =>
        dsimp only
        rw [ih hplain, List.cons_append]
      | some n =>
        -- The marker lies in `xs`, so none of it is left when the semicolon comes.
        obtain ⟨htwo, hlength⟩ := markerLength?_eq_some hfound
        rw [List.length_cons] at hlength
        have hfits : (MaskMode.marker (n - 1)).Fits xs := ⟨by omega, by omega⟩
        dsimp only
        rw [ih hfits, List.cons_append]
    | hidden =>
      rw [maskFrom, maskFrom]
      split
      · rw [ih hplain, List.cons_append]
      · exact ih hhidden
    | marker left =>
      obtain ⟨hleft, hlength⟩ := h
      rw [List.length_cons] at hlength
      rw [maskFrom, maskFrom]
      split
      · rw [ih hhidden]
        rfl
      · have hfits : (MaskMode.marker (left - 1)).Fits xs := ⟨by omega, by omega⟩
        rw [ih hfits, List.cons_append]

theorem maskFrom_hidden {cs : List Char} (h : ';' ∉ cs) : maskFrom .hidden cs = [] := by
  induction cs with
  | nil => rfl
  | cons c cs ih =>
    rw [List.mem_cons, not_or] at h
    rw [maskFrom, if_neg (Ne.symm h.1), ih h.2]

/-! ## Masked texts -/

theorem maskPassword_toList (s : String) : (maskPassword s).toList = maskFrom .plain s.toList := by
  rw [maskPassword, String.toList_ofList]

theorem maskPassword_eq_iff {s t : String} :
    maskPassword s = maskPassword t ↔ maskFrom .plain s.toList = maskFrom .plain t.toList := by
  rw [← String.toList_inj, maskPassword_toList, maskPassword_toList]

/-! ## The password segment -/

/-- The configuration with another password. -/
def Config.withPassword (c : Config) (password : String) : Config :=
  { c with password := .text password }

/-- A password as it stands in an ODBC string. -/
def passwordSegment (password : String) : String := "Password=" ++ password

theorem maskPassword_segment {password : String} (h : ';' ∉ password.toList) :
    maskPassword (passwordSegment password) = "Password=***" := by
  have hmask : maskFrom .plain ("Password=".toList ++ password.toList) =
      "Password=***".toList ++ maskFrom .hidden password.toList := rfl
  rw [maskPassword, passwordSegment, String.toList_append, hmask, maskFrom_hidden h,
    List.append_nil, String.ofList_toList]

/-- A password is hidden up to its first semicolon. What follows is a text like any other. -/
theorem maskPassword_segment_semicolon {hidden : String} (h : ';' ∉ hidden.toList)
    (rest : String) :
    maskPassword (passwordSegment (hidden ++ ";" ++ rest)) =
      "Password=***;" ++ maskPassword rest := by
  have hsplit : (passwordSegment (hidden ++ ";" ++ rest)).toList =
      (passwordSegment hidden).toList ++ ';' :: rest.toList := by
    simp [passwordSegment]
  have hplain : MaskMode.plain.Fits (passwordSegment hidden).toList := trivial
  rw [← String.toList_inj, maskPassword_toList, hsplit, maskFrom_append hplain,
    ← maskPassword_toList, maskPassword_segment h, ← maskPassword_toList, String.toList_append]
  rfl

theorem join_semicolon_cons (rest : List String) :
    ∃ after : List Char, (after = [] ∨ ∃ more, after = ';' :: more) ∧
      ∀ first : String, (join ";" (first :: rest)).toList = first.toList ++ after := by
  cases rest with
  | nil =>
    refine ⟨[], .inl rfl, fun first => ?_⟩
    rw [join, List.append_nil]
  | cons next rest =>
    refine ⟨';' :: (join ";" (next :: rest)).toList, .inr ⟨_, rfl⟩, fun first => ?_⟩
    rw [join, String.toList_append, String.toList_append, List.append_assoc]
    rfl

/-- An ODBC string has its password in a segment of its own, and the text around it does not depend
on the password. -/
theorem odbcString_split (c : Config) :
    ∃ before after : List Char, (after = [] ∨ ∃ more, after = ';' :: more) ∧
      ∀ password : String, (odbcString (c.withPassword password)).toList =
        before ++ ';' :: ((passwordSegment password).toList ++ after) := by
  obtain ⟨after, hafter, hjoin⟩ :=
    join_semicolon_cons (c.keywords.entries.map fun e => e.1.value.plain ++ "=" ++ e.2.plain)
  refine ⟨(odbcScheme ++ "DRIVER=" ++ c.driverName.plain ++ ";" ++ ("System=" ++ c.host.plain) ++
    ";" ++ ("Database=" ++ c.database.plain) ++ ";" ++ ("UserID=" ++ c.username.plain)).toList,
    after, hafter, fun password => ?_⟩
  rw [← hjoin (passwordSegment password)]
  simp [odbcString, Config.withPassword, join, passwordSegment, Value.plain]

/-- **The password in an ODBC string.** Two strings that differ in the password alone are masked
alike exactly when the segments of the two passwords are. -/
theorem maskPassword_odbcString_iff (c : Config) (p q : String) :
    maskPassword (odbcString (c.withPassword p)) =
        maskPassword (odbcString (c.withPassword q)) ↔
      maskPassword (passwordSegment p) = maskPassword (passwordSegment q) := by
  obtain ⟨before, after, hafter, hsplit⟩ := odbcString_split c
  have hplain : ∀ cs, MaskMode.plain.Fits cs := fun _ => trivial
  rw [maskPassword_eq_iff, maskPassword_eq_iff, hsplit, hsplit,
    maskFrom_append (hplain _), maskFrom_append (hplain _), List.append_cancel_left_eq,
    List.cons.injEq, and_iff_right rfl]
  obtain rfl | ⟨more, rfl⟩ := hafter
  · rw [List.append_nil, List.append_nil]
  · rw [maskFrom_append (hplain _), maskFrom_append (hplain _), List.append_cancel_right_eq]

end Db2Client.Connection
