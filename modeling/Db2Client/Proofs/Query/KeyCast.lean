import Db2Client.Proofs.Number.IntegerText
import Db2Client.Proofs.Number.Truncation
import Db2Client.Query.Key

/-!
# The integer of a key

Text that is a numeral goes one of two ways. Without a point and a power of ten it is read as an
integer, and otherwise as a decimal. Each way has limits of its own, but whenever one returns, it
returns the number that the numeral denotes, cut off toward zero (`castText_of_spells`). Any other
text stays as it is (`castText_of_not_spells`). A cast may change a text, a float or a finite
decimal and leaves the other values alone (`castKey_of_not_mayChange`).

Main result: `castKey_exact`.
-/

namespace Db2Client.Query

open Number Text

/-! ## Text -/

theorem castText_of_not_spells {s : String} (h : ¬ ∃ n, SpellsAmongBlanks s.toList n) :
    castText s = .ok (.text s) := by
  have hnone : Numeral.ofText? (trim s.toList) = none := by
    rw [Option.eq_none_iff_forall_ne_some]
    exact fun n hn => h ⟨n, Numeral.ofText?_trim_eq_some_iff.1 hn⟩
  rw [castText, hnone]

theorem castText_eq_castNumeral {s : String} {n : Numeral} (h : SpellsAmongBlanks s.toList n) :
    castText s = castNumeral s n := by
  rw [castText, Numeral.ofText?_trim_eq_some_iff.2 h]

theorem truncated_of_isWhole {n : Numeral} (h : n.isWhole = true) :
    truncated n.value = applySign n.negative (ofDigits n.whole) := by
  obtain ⟨negative, whole, fraction, power⟩ := n
  obtain ⟨rfl, rfl⟩ : fraction = none ∧ power = none := by
    simpa [Numeral.isWhole] using h
  have hnonneg : (0 : ℚ) ≤ ofDigits whole := Nat.cast_nonneg _
  rw [Numeral.value_eq]
  simp only [Numeral.coefficient, Numeral.digits, Numeral.exponent, Option.getD_none,
    List.append_nil, List.length_nil, Nat.cast_zero, sub_zero, zpow_zero, mul_one]
  rw [truncated_signed negative hnonneg, Nat.floor_natCast]

theorem readInteger_of_spells {s : String} {n : Numeral} {m : Int}
    (h : SpellsAmongBlanks s.toList n) (hwhole : n.isWhole = true) (hm : readInteger s = .ok m) :
    m = truncated n.value := by
  generalize hcs : s.toList = cs at h
  cases h with
  | blanks hleft hright hbody =>
    rw [readInteger_of_whole hcs hleft hright hbody hwhole] at hm
    rw [truncated_of_isWhole hwhole]
    split_ifs at hm
    exact (Except.ok.inj hm).symm

/-- A decimal in range has the coefficient and the exponent of its numeral. -/
theorem truncate_of_ofNumeral? {n : Numeral} {d : Decimal} (h : Decimal.ofNumeral? n = some d) :
    d.truncate = .ok (truncated n.value) := by
  unfold Decimal.ofNumeral? Decimal.make? at h
  split at h
  · cases h
  · cases h
    rw [truncate_finite, Numeral.value_eq]

/-- **A numeral becomes the integer that it denotes**, whichever way it is read. -/
theorem castText_of_spells {s : String} {n : Numeral} {r : Value}
    (h : SpellsAmongBlanks s.toList n) (hr : castText s = .ok r) :
    r = .integer (truncated n.value) := by
  rw [castText_eq_castNumeral h, castNumeral] at hr
  split at hr
  · rename_i hwhole
    cases hread : readInteger s with
    | error e => rw [hread] at hr; cases hr
    | ok m =>
      rw [hread] at hr
      cases hr
      rw [readInteger_of_spells h hwhole hread]
  · split at hr
    · rename_i d hd
      rw [truncate_of_ofNumeral? hd] at hr
      cases hr
      rfl
    · cases hr

/-! ## Other values -/

theorem castKey_finite (negative : Bool) (c : Nat) (e : Int) :
    castKey (.decimal (.finite negative c e)) =
      .ok (.integer (truncated (signed negative (c * 10 ^ e)))) := by
  simp only [castKey, Decimal.isFinite, if_true, truncate_finite]
  rfl

/-- The kinds of values that a cast may change. -/
def MayChange : Value → Prop
  | .text _ | .float _ | .decimal (.finite ..) => True
  | _ => False

theorem castKey_of_not_mayChange {v : Value} (h : ¬ MayChange v) : castKey v = .ok v := by
  cases v with
  | text s => exact absurd trivial h
  | float x => exact absurd trivial h
  | decimal d =>
    cases d with
    | finite negative c e => exact absurd trivial h
    | infinity negative => rfl
    | notANumber negative signaling payload => rfl
  | _ => rfl

/-- **Casting again changes nothing.** -/
theorem castKey_castKey {v r : Value} (hv : ∀ x, v ≠ .float x) (hr : castKey v = .ok r) :
    castKey r = .ok r := by
  by_cases h : MayChange v
  · match v with
    | .text s =>
      by_cases hs : ∃ n, SpellsAmongBlanks s.toList n
      · obtain ⟨n, hn⟩ := hs
        -- The result is an integer, and integers are not cast.
        rw [castText_of_spells hn hr]
        rfl
      · have htext : castKey (.text s) = .ok (.text s) := castText_of_not_spells hs
        rw [hr] at htext
        cases htext
        exact hr
    | .float x => exact absurd rfl (hv x)
    | .decimal (.finite negative c e) =>
      rw [castKey_finite] at hr
      cases hr
      rfl
  · have hsame := castKey_of_not_mayChange h
    rw [hr] at hsame
    cases hsame
    exact hr

/-- **The cast of a key is exact.** Where the cast of a text returns, a numeral among blanks has
become the integer that it denotes, cut off toward zero. Any other text stays as it is. A finite
decimal becomes its own whole part, and values of the other kinds, floats apart, stay as they are.
Casting again changes nothing, unless it was a float that was cast. -/
theorem castKey_exact :
    (∀ s n r, SpellsAmongBlanks s.toList n → castKey (.text s) = .ok r →
      r = .integer (truncated n.value)) ∧
    (∀ s, (¬ ∃ n, SpellsAmongBlanks s.toList n) → castKey (.text s) = .ok (.text s)) ∧
    (∀ negative c e, castKey (.decimal (.finite negative c e)) =
      .ok (.integer (truncated (signed negative (c * 10 ^ e))))) ∧
    (∀ v, ¬ MayChange v → castKey v = .ok v) ∧
    ∀ v r, (∀ x, v ≠ .float x) → castKey v = .ok r → castKey r = .ok r :=
  ⟨fun _ _ _ => castText_of_spells, fun _ => castText_of_not_spells, castKey_finite,
    fun _ => castKey_of_not_mayChange, fun _ _ => castKey_castKey⟩

/-- A numeral with every part of the grammar, one in other digits that vanishes, and a letter of a
power of ten without digits. -/
theorem castKey_exact_parts :
    let n : Numeral := ⟨true, [1, 2], some [7, 5], some (false, [1])⟩
    let small : Numeral := ⟨false, [3], none, some (true, [4, 0, 0])⟩
    (SpellsAmongBlanks "\t-12.75e1\n".toList n ∧
      castKey (.text "\t-12.75e1\n") = .ok (.integer (-127)) ∧ truncated n.value = -127) ∧
    (SpellsAmongBlanks "٣E-٤٠٠".toList small ∧ truncated small.value = 0) ∧
    (castKey (.text "12e") = .ok (.text "12e")) ∧
    castKey .null = .ok .null ∧ castKey (.integer (-127)) = .ok (.integer (-127)) := by
  intro n small
  obtain ⟨hspells, hother, -, hplain, htwice⟩ := castKey_exact
  have hn : SpellsAmongBlanks "\t-12.75e1\n".toList n :=
    Numeral.ofText?_trim_eq_some_iff.1 (by decide)
  have hsmall : SpellsAmongBlanks "٣E-٤٠٠".toList small :=
    Numeral.ofText?_trim_eq_some_iff.1 (by decide)
  have hcast : castKey (.text "\t-12.75e1\n") = .ok (.integer (-127)) := rfl
  have hsmallCast : castKey (.text "٣E-٤٠٠") = .ok (.integer 0) := rfl
  refine ⟨⟨hn, hcast, ?_⟩, ⟨hsmall, ?_⟩, hother _ ?_, hplain _ id, htwice _ _ ?_ hcast⟩
  · exact (Value.integer.inj (hspells _ n _ hn hcast)).symm
  · exact (Value.integer.inj (hspells _ small _ hsmall hsmallCast)).symm
  · rintro ⟨m, hm⟩
    have hnone : Numeral.ofText? (trim "12e".toList) = none := by decide
    exact absurd ((Numeral.ofText?_trim_eq_some_iff.2 hm).symm.trans hnone) (by simp)
  · rintro x ⟨⟩

end Db2Client.Query
