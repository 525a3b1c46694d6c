import Db2Client.Proofs.Text.QuoteReading
import Db2Client.Sql.Literal

/-!
# Reading literals

A literal is read from the front of a text. Behind the opening quote two quotes in a row stand for
one, and a quote that stands alone ends the literal. The reader knows nothing of how literals are
written, and `readLiteral?_eq_some_iff` says that it accepts what is written and nothing else: the
text of a literal is decided by its characters, and it ends where it was meant to end.

`readItems?` reads literals with commas between them, up to a closing parenthesis.
-/

namespace Db2Client.Sql

open Text

/-! ## One literal -/

/-- What stands in a literal behind its opening quote, and what follows the literal. -/
def readInside? : List Char → Option (List Char × List Char)
  | [] => none
  | '\'' :: '\'' :: rest => (readInside? rest).map fun (cs, after) => ('\'' :: cs, after)
  | '\'' :: rest => some ([], rest)
  | c :: rest => (readInside? rest).map fun (cs, after) => (c :: cs, after)

/-- The text of the literal at the front, and what follows the literal. -/
def readLiteral? : List Char → Option (List Char × List Char)
  | '\'' :: rest => readInside? rest
  | _ => none

theorem readInside?_eq_readQuoted? (cs : List Char) : readInside? cs = readQuoted? '\'' cs := by
  fun_induction readInside? cs with
  | case1 => rfl
  | case2 rest ih => rw [readQuoted?_pair, ih]
  | case3 rest hrest =>
    rw [readQuoted?_closing]
    intro hhead
    obtain ⟨more, rfl⟩ := List.head?_eq_some_iff.1 hhead
    exact hrest more rfl
  | case4 c rest _ hc ih => rw [readQuoted?_of_ne hc, ih]

/-- **A literal is read exactly as it is written.** It may stand in front of anything but another
quote. -/
theorem readLiteral?_eq_some_iff {cs text after : List Char} :
    readLiteral? cs = some (text, after) ↔
      cs = literalChars text ++ after ∧ after.head? ≠ some '\'' := by
  constructor
  · intro h
    unfold readLiteral? at h
    split at h
    · rw [readInside?_eq_readQuoted?, readQuoted?_eq_some_iff] at h
      obtain ⟨rfl, hafter⟩ := h
      exact ⟨by simp [literalChars], hafter⟩
    · cases h
  · rintro ⟨rfl, hafter⟩
    have hinside := readQuoted?_doubled text hafter
    simpa [literalChars, readLiteral?, readInside?_eq_readQuoted?] using hinside

theorem readLiteral?_literalChars (text : List Char) {after : List Char}
    (h : after.head? ≠ some '\'') :
    readLiteral? (literalChars text ++ after) = some (text, after) :=
  readLiteral?_eq_some_iff.2 ⟨rfl, h⟩

theorem length_lt_of_readLiteral? {cs text after : List Char}
    (h : readLiteral? cs = some (text, after)) : after.length < cs.length := by
  obtain ⟨rfl, -⟩ := readLiteral?_eq_some_iff.1 h
  simp only [literalChars, List.length_append, List.length_cons]
  omega

/-! ## Several literals -/

/-- The texts of literals with a comma and a blank between neighbours, and what follows the closing
parenthesis behind the last. -/
def readItems? (cs : List Char) : Option (List (List Char) × List Char) :=
  match _hread : readLiteral? cs with
  | some (text, ',' :: ' ' :: more) =>
    (readItems? more).map fun (texts, after) => (text :: texts, after)
  | some (text, ')' :: after) => some ([text], after)
  | _ => none
termination_by cs.length
decreasing_by
  have hlength := length_lt_of_readLiteral? _hread
  simp only [List.length_cons] at hlength
  omega

theorem readItems?_last (text after : List Char) :
    readItems? (literalChars text ++ ')' :: after) = some ([text], after) := by
  have hread : readLiteral? (literalChars text ++ ')' :: after) = some (text, ')' :: after) :=
    readLiteral?_literalChars text (by simp)
  rw [readItems?]
  split
  · rename_i heq
    rw [hread] at heq
    cases heq
  · rename_i heq
    rw [hread] at heq
    cases heq
    rfl
  · rename_i hlast
    exact absurd hread (hlast text after)

theorem readItems?_more (text more : List Char) :
    readItems? (literalChars text ++ ',' :: ' ' :: more) =
      (readItems? more).map fun (texts, after) => (text :: texts, after) := by
  have hread : readLiteral? (literalChars text ++ ',' :: ' ' :: more) =
      some (text, ',' :: ' ' :: more) := readLiteral?_literalChars text (by simp)
  rw [readItems?]
  split
  · rename_i heq
    rw [hread] at heq
    cases heq
    rfl
  · rename_i heq
    rw [hread] at heq
    cases heq
  · rename_i hmore _
    exact absurd hread (hmore text more)

@[simp] theorem literal_toList (s : String) : (literal s).toList = literalChars s.toList := by
  rw [literal, String.toList_ofList]

/-- **Several literals are read exactly as they are written.** None is merged with its neighbour,
split or lost, whatever the texts. -/
theorem readItems?_join (text : String) (texts : List String) (after : List Char) :
    readItems? ((join ", " ((text :: texts).map literal)).toList ++ ')' :: after) =
      some ((text :: texts).map String.toList, after) := by
  induction texts generalizing text with
  | nil => simpa [join] using readItems?_last text.toList after
  | cons next texts ih =>
    have hmore := readItems?_more text.toList
      ((join ", " ((next :: texts).map literal)).toList ++ ')' :: after)
    rw [ih next] at hmore
    simpa [join] using hmore

/-! ## Literals in a text -/

/-- The text `s` begins with `front`, then comes a literal of `text`, and then `after`. -/
def Holds (s front text after : String) : Prop :=
  ∃ rest : List Char, s.toList = front.toList ++ rest ∧
    readLiteral? rest = some (text.toList, after.toList)

/-- A literal in front of the text ends before it. -/
def OpensNoQuote (s : String) : Prop := s.toList.head? ≠ some '\''

theorem OpensNoQuote.append {s t : String} (hs : OpensNoQuote s) (ht : OpensNoQuote t) :
    OpensNoQuote (s ++ t) := by
  unfold OpensNoQuote at hs ht ⊢
  rw [String.toList_append, List.head?_append]
  cases hhead : s.toList.head? with
  | none => simpa using ht
  | some c => simpa [hhead] using hs

theorem holds_literal (front text : String) {after : String} (h : OpensNoQuote after) :
    Holds (front ++ literal text ++ after) front text after := by
  refine ⟨literalChars text.toList ++ after.toList, ?_, readLiteral?_literalChars text.toList h⟩
  simp

end Db2Client.Sql
