import Mathlib.Data.List.Forall2
import Db2Client.Number.Numeral
import Db2Client.Proofs.Text.Blank

/-!
# The texts of a numeral

`Spells` gives the grammar of numerals part by part, without a reader: an optional sign, decimal
digits of any script with an optional point and fraction, or a point followed by digits, and an
optional power of ten. The reader follows the grammar in both directions: what it takes from the
front of a text spells the numeral it returns, and from a text that spells a numeral it takes all
of it. So a text reads as a numeral exactly when it spells it (`ofText?_eq_some_iff`), and with
blanks around it when it spells it inside of them (`ofText?_trim_eq_some_iff`).
-/

namespace Db2Client.Number

open Text

/-! ## The grammar -/

/-- The characters are digits with these worths. -/
def SpellsDigits (cs : List Char) (ds : List Nat) : Prop :=
  List.Forall₂ (fun c d => digitValue? c = some d) cs ds

inductive SpellsSign : List Char → Bool → Prop
  | unsigned : SpellsSign [] false
  | plus : SpellsSign ['+'] false
  | minus : SpellsSign ['-'] true

inductive SpellsFraction : List Char → Option (List Nat) → Prop
  | absent : SpellsFraction [] none
  /-- There may be no digit after a point. -/
  | point {cs : List Char} {ds : List Nat} :
      SpellsDigits cs ds → SpellsFraction ('.' :: cs) (some ds)

inductive SpellsPower : List Char → Option (Bool × List Nat) → Prop
  | absent : SpellsPower [] none
  | letter {c : Char} {sign cs : List Char} {negative : Bool} {ds : List Nat} :
      c = 'e' ∨ c = 'E' → SpellsSign sign negative → SpellsDigits cs ds → ds ≠ [] →
      SpellsPower (c :: (sign ++ cs)) (some (negative, ds))

/-- The text of a numeral. There is a digit before the power of ten. -/
inductive Spells : List Char → Numeral → Prop
  | parts {sign front behind letters : List Char} {negative : Bool} {whole : List Nat}
      {fraction : Option (List Nat)} {power : Option (Bool × List Nat)} :
      SpellsSign sign negative → SpellsDigits front whole → SpellsFraction behind fraction →
      SpellsPower letters power → whole ++ fraction.getD [] ≠ [] →
      Spells (sign ++ (front ++ (behind ++ letters))) ⟨negative, whole, fraction, power⟩

/-- The text of a numeral with blanks on either side. -/
inductive SpellsAmongBlanks : List Char → Numeral → Prop
  | blanks {left body right : List Char} {n : Numeral} :
      AllBlank left → AllBlank right → Spells body n →
      SpellsAmongBlanks (left ++ (body ++ right)) n

/-! ## Characters -/

theorem SpellsDigits.isDigit {cs : List Char} {ds : List Nat} (h : SpellsDigits cs ds) :
    ∀ c ∈ cs, isDigit c = true := by
  induction h with
  | nil => simp
  | cons hc _ ih => exact List.forall_mem_cons.2 ⟨by rw [Text.isDigit, hc]; rfl, ih⟩

theorem SpellsDigits.ne_nil {cs : List Char} {ds : List Nat} (h : SpellsDigits cs ds)
    (hds : ds ≠ []) : cs ≠ [] := by
  cases h with
  | nil => exact absurd rfl hds
  | cons => exact List.cons_ne_nil _ _

theorem SpellsDigits.filterMap {cs : List Char} {ds : List Nat} (h : SpellsDigits cs ds) :
    cs.filterMap digitValue? = ds := by
  induction h with
  | nil => rfl
  | cons hc _ ih => rw [List.filterMap_cons_some hc, ih]

theorem spellsDigits_filterMap {cs : List Char} (h : ∀ c ∈ cs, isDigit c = true) :
    SpellsDigits cs (cs.filterMap digitValue?) := by
  induction cs with
  | nil => exact .nil
  | cons c cs ih =>
    obtain ⟨hc, hcs⟩ := List.forall_mem_cons.1 h
    obtain ⟨d, hd⟩ := Option.isSome_iff_exists.1 hc
    rw [List.filterMap_cons_some hd]
    exact .cons hd (ih hcs)

theorem SpellsSign.isBlank {cs : List Char} {negative : Bool} (h : SpellsSign cs negative) :
    ∀ c ∈ cs, isBlank c = false := by
  cases h with
  | unsigned => exact List.forall_mem_nil _
  | plus => exact List.forall_mem_singleton.2 (by decide)
  | minus => exact List.forall_mem_singleton.2 (by decide)

theorem SpellsDigits.isBlank {cs : List Char} {ds : List Nat} (h : SpellsDigits cs ds) :
    ∀ c ∈ cs, isBlank c = false := fun c hc => isBlank_eq_false_of_isDigit (h.isDigit c hc)

theorem Spells.isBlank {cs : List Char} {n : Numeral} (h : Spells cs n) :
    ∀ c ∈ cs, isBlank c = false := by
  obtain ⟨hsign, hwhole, hfraction, hpower, _⟩ := h
  refine List.forall_mem_append.2 ⟨hsign.isBlank, List.forall_mem_append.2 ⟨hwhole.isBlank,
    List.forall_mem_append.2 ⟨?_, ?_⟩⟩⟩
  · cases hfraction with
    | absent => simp
    | point hds => exact List.forall_mem_cons.2 ⟨by decide, hds.isBlank⟩
  · cases hpower with
    | absent => simp
    | letter hc hsign hds _ =>
      refine List.forall_mem_cons.2
        ⟨?_, List.forall_mem_append.2 ⟨hsign.isBlank, hds.isBlank⟩⟩
      obtain rfl | rfl := hc <;> decide

/-! ## What the reader takes -/

theorem takeSign_spells (cs : List Char) :
    ∃ sign, SpellsSign sign (takeSign cs).1 ∧ cs = sign ++ (takeSign cs).2 := by
  unfold takeSign
  split
  · exact ⟨['+'], .plus, rfl⟩
  · exact ⟨['-'], .minus, rfl⟩
  · exact ⟨[], .unsigned, rfl⟩

namespace Numeral

theorem takeDigits_spells (cs : List Char) :
    ∃ front, SpellsDigits front (takeDigits cs).1 ∧ cs = front ++ (takeDigits cs).2 :=
  ⟨cs.takeWhile isDigit, spellsDigits_filterMap fun _ hc => List.mem_takeWhile_imp hc,
    List.takeWhile_append_dropWhile.symm⟩

theorem takeFraction_spells (cs : List Char) :
    ∃ front, SpellsFraction front (takeFraction cs).1 ∧ cs = front ++ (takeFraction cs).2 := by
  unfold takeFraction
  split
  · rename_i rest
    obtain ⟨front, hfront, hrest⟩ := takeDigits_spells rest
    exact ⟨'.' :: front, .point hfront, congrArg ('.' :: ·) hrest⟩
  · exact ⟨[], .absent, rfl⟩

theorem takePower_spells (cs : List Char) :
    ∃ front, SpellsPower front (takePower cs).1 ∧ cs = front ++ (takePower cs).2 := by
  cases cs with
  | nil => exact ⟨[], .absent, rfl⟩
  | cons c rest =>
    obtain ⟨sign, hsign, hrest⟩ := takeSign_spells rest
    obtain ⟨front, hfront, hafter⟩ := takeDigits_spells (takeSign rest).2
    simp only [takePower]
    by_cases hc : c = 'e' ∨ c = 'E'
    · by_cases hds : (takeDigits (takeSign rest).2).1 = []
      · rw [if_pos hc, if_pos (List.isEmpty_iff.2 hds)]
        exact ⟨[], .absent, rfl⟩
      · rw [if_pos hc, if_neg (mt List.isEmpty_iff.1 hds)]
        refine ⟨c :: (sign ++ front), .letter hc hsign hfront hds, ?_⟩
        rw [List.cons_append, List.append_assoc, ← hafter, ← hrest]
    · rw [if_neg hc]
      exact ⟨[], .absent, rfl⟩

theorem take?_spells {cs rest : List Char} {n : Numeral} (h : take? cs = some (n, rest)) :
    ∃ front, Spells front n ∧ cs = front ++ rest := by
  obtain ⟨sign, hsign, hcs⟩ := takeSign_spells cs
  obtain ⟨whole, hwhole, hcs₁⟩ := takeDigits_spells (takeSign cs).2
  obtain ⟨fraction, hfraction, hcs₂⟩ := takeFraction_spells (takeDigits (takeSign cs).2).2
  obtain ⟨power, hpower, hcs₃⟩ :=
    takePower_spells (takeFraction (takeDigits (takeSign cs).2).2).2
  simp only [take?] at h
  split at h
  · cases h
  · rename_i hdigits
    cases h
    refine ⟨sign ++ (whole ++ (fraction ++ power)), .parts hsign hwhole hfraction hpower ?_, ?_⟩
    · simpa using hdigits
    · rw [List.append_assoc, List.append_assoc, List.append_assoc, ← hcs₃, ← hcs₂, ← hcs₁, ← hcs]

/-! ## What the reader takes all of -/

theorem takeSign_append {sign rest : List Char} {negative : Bool} (h : SpellsSign sign negative)
    (hrest : ∀ c ∈ rest.head?, c ≠ '+' ∧ c ≠ '-') : takeSign (sign ++ rest) = (negative, rest) := by
  cases h with
  | plus => rfl
  | minus => rfl
  | unsigned =>
    cases rest with
    | nil => rfl
    | cons c rest =>
      obtain ⟨hplus, hminus⟩ := hrest c rfl
      rw [List.nil_append]
      unfold takeSign
      split
      · rename_i heq
        exact absurd (List.cons.inj heq).1 hplus
      · rename_i heq
        exact absurd (List.cons.inj heq).1 hminus
      · rfl

theorem takeDigits_append {cs rest : List Char} {ds : List Nat} (h : SpellsDigits cs ds)
    (hrest : ∀ c ∈ rest.head?, isDigit c = false) : takeDigits (cs ++ rest) = (ds, rest) := by
  rw [takeDigits, takeWhile_append_of_head? h.isDigit hrest,
    dropWhile_append_of_head? h.isDigit hrest, h.filterMap]

theorem takeFraction_append {cs rest : List Char} {fraction : Option (List Nat)}
    (h : SpellsFraction cs fraction)
    (hrest : ∀ c ∈ rest.head?, isDigit c = false ∧ c ≠ '.') :
    takeFraction (cs ++ rest) = (fraction, rest) := by
  cases h with
  | absent =>
    rw [List.nil_append]
    unfold takeFraction
    split
    · exact absurd rfl (hrest '.' rfl).2
    · rfl
  | point hds =>
    rw [List.cons_append, takeFraction, takeDigits_append hds fun c hc => (hrest c hc).1]

theorem takePower_eq {cs : List Char} {power : Option (Bool × List Nat)}
    (h : SpellsPower cs power) : takePower cs = (power, []) := by
  cases h with
  | absent => rfl
  | @letter c sign cs negative ds hc hsign hcs hds =>
    have hsigned : takeSign (sign ++ cs) = (negative, cs) := by
      refine takeSign_append hsign fun c hc => ?_
      have hdigit := hcs.isDigit c (List.mem_of_mem_head? hc)
      exact ⟨ne_of_test hdigit (by decide), ne_of_test hdigit (by decide)⟩
    have hdigits : takeDigits cs = (ds, []) := by
      have hend : ∀ c ∈ ([] : List Char).head?, isDigit c = false := by simp
      have htake := takeDigits_append hcs hend
      rwa [List.append_nil] at htake
    simp only [takePower, if_pos hc, hsigned, hdigits, if_neg (mt List.isEmpty_iff.1 hds)]

theorem head?_spellsPower {cs : List Char} {power : Option (Bool × List Nat)}
    (h : SpellsPower cs power) {c : Char} (hc : c ∈ cs.head?) : c = 'e' ∨ c = 'E' := by
  cases h with
  | absent => cases hc
  | letter hletter => cases hc; exact hletter

theorem take?_eq {cs : List Char} {n : Numeral} (h : Spells cs n) : take? cs = some (n, []) := by
  cases h with
  | @parts sign front behind letters negative whole fraction power
      hsign hwhole hfraction hpower hne =>
    -- Each part ends where the next one begins, with a character it cannot take.
    have hletters : ∀ c ∈ letters.head?, isDigit c = false ∧ c ≠ '.' := by
      intro c hc
      obtain rfl | rfl := head?_spellsPower hpower hc <;> decide
    have hbehind : ∀ c ∈ (behind ++ letters).head?, isDigit c = false := by
      cases hfraction with
      | absent => exact fun c hc => (hletters c hc).1
      | point => rintro c ⟨⟩; decide
    have hfront : ∀ c ∈ (front ++ (behind ++ letters)).head?, c ≠ '+' ∧ c ≠ '-' := by
      intro c hc
      cases hwhole with
      | nil =>
        cases hfraction with
        | absent => exact absurd rfl hne
        | point => cases hc; decide
      | cons hd _ =>
        cases hc
        have hdigit : isDigit _ = true := Option.isSome_iff_exists.2 ⟨_, hd⟩
        exact ⟨ne_of_test hdigit (by decide), ne_of_test hdigit (by decide)⟩
    simp only [take?, takeSign_append hsign hfront, takeDigits_append hwhole hbehind,
      takeFraction_append hfraction hletters, takePower_eq hpower]
    rw [if_neg]
    simpa using hne

/-- **Reading follows the grammar.** -/
theorem ofText?_eq_some_iff {cs : List Char} {n : Numeral} :
    ofText? cs = some n ↔ Spells cs n := by
  constructor
  · intro h
    unfold ofText? at h
    split at h
    · rename_i htake
      cases h
      obtain ⟨front, hfront, hcs⟩ := take?_spells htake
      rwa [hcs, List.append_nil]
    · cases h
  · intro h
    rw [ofText?, take?_eq h]

theorem ofText?_trim_eq_some_iff {cs : List Char} {n : Numeral} :
    ofText? (trim cs) = some n ↔ SpellsAmongBlanks cs n := by
  rw [ofText?_eq_some_iff]
  constructor
  · intro h
    obtain ⟨left, right, hleft, hright, hcs⟩ := trim_split cs
    rw [hcs]
    exact .blanks hleft hright h
  · rintro ⟨hleft, hright, hbody⟩
    rwa [trim_surrounded hleft hright hbody.isBlank]

end Numeral
end Db2Client.Number
