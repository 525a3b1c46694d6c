import Mathlib.Algebra.Order.Field.Power
import Mathlib.Algebra.Order.Floor.Semifield
import Mathlib.Data.List.Induction
import Mathlib.Data.Nat.Digits.Lemmas
import Mathlib.Data.Rat.Floor
import Mathlib.Tactic.FieldSimp
import Db2Client.Number.Decimal

/-!
# The worth of a number and its whole part

A numeral and a decimal each denote one rational number, given here by the places of their digits.
The whole part of a decimal is computed on natural numbers, with a short cut when the digits do not
reach the point. It is the rational number cut off toward zero, for every coefficient and every
power of ten (`truncate_finite`). The coefficient and the exponent of a numeral make up the number
that it denotes (`Numeral.value_eq`).
-/

namespace Db2Client.Number

open Text

/-- The number, or its opposite. -/
def signed (negative : Bool) (q : ℚ) : ℚ := if negative then -q else q

/-- The integer that is left when what follows the point is cut off. -/
def truncated (q : ℚ) : ℤ := if 0 ≤ q then ⌊q⌋ else ⌈q⌉

theorem truncated_signed (negative : Bool) {q : ℚ} (hq : 0 ≤ q) :
    truncated (signed negative q) = applySign negative ⌊q⌋₊ := by
  have hfloor : (⌊q⌋₊ : ℤ) = ⌊q⌋ := Int.natCast_floor_eq_floor hq
  rw [applySign, hfloor, truncated, signed]
  cases negative with
  | false => simp [hq]
  | true =>
    obtain rfl | hpos := hq.eq_or_lt
    · simp
    · simp [not_le.2 hpos, Int.ceil_neg]

/-! ## Decimals -/

theorem lt_pow_of_digitCount_le {c d : ℕ} (h : digitCount c ≤ d) : c < 10 ^ d := by
  have hpos : 0 < digitCount c := Nat.length_toDigits_pos
  exact (Nat.length_toDigits_le_iff (by decide) (by omega)).1 h

theorem floor_scaled (c : ℕ) (e : ℤ) :
    ⌊(c : ℚ) * 10 ^ e⌋₊ = if e < 0 then c / 10 ^ (-e).toNat else c * 10 ^ e.toNat := by
  split
  · obtain ⟨d, rfl⟩ : ∃ d : ℕ, e = -d := ⟨(-e).toNat, by omega⟩
    have hquotient : (c : ℚ) * 10 ^ (-d : ℤ) = c / (10 ^ d : ℕ) := by
      rw [zpow_neg, zpow_natCast, ← div_eq_mul_inv]
      push_cast
      rfl
    rw [hquotient, Nat.floor_div_eq_div, neg_neg, Int.toNat_natCast]
  · obtain ⟨d, rfl⟩ : ∃ d : ℕ, e = d := ⟨e.toNat, by omega⟩
    have hproduct : (c : ℚ) * 10 ^ (d : ℤ) = (c * 10 ^ d : ℕ) := by
      rw [zpow_natCast]
      push_cast
      rfl
    rw [hproduct, Nat.floor_natCast, Int.toNat_natCast]

/-- **The whole part of a decimal.** Digits that do not reach the point leave nothing. -/
theorem truncate_finite (negative : Bool) (c : ℕ) (e : ℤ) :
    Decimal.truncate (.finite negative c e) =
      .ok (truncated (signed negative (c * 10 ^ e))) := by
  have hnonneg : (0 : ℚ) ≤ c * 10 ^ e := by positivity
  rw [truncated_signed negative hnonneg, floor_scaled, Decimal.truncate]
  by_cases hc : c = 0
  · simp [hc]
  · rw [if_neg hc]
    split
    · rename_i hneg
      split
      · rename_i hshort
        have hlt : c < 10 ^ (-e).toNat := lt_pow_of_digitCount_le (by omega)
        rw [Nat.div_eq_of_lt hlt]
      · rfl
    · rfl

/-! ## Numerals -/

/-- What the digits denote, each by its place. -/
def placeValue (ds : List ℕ) : ℕ := Nat.ofDigits 10 ds.reverse

/-- The number that a numeral denotes. -/
def Numeral.value (n : Numeral) : ℚ :=
  let fraction := n.fraction.getD []
  let power : ℚ :=
    match n.power with
    | none => 1
    | some (false, ds) => 10 ^ placeValue ds
    | some (true, ds) => 1 / 10 ^ placeValue ds
  signed n.negative ((placeValue n.whole + placeValue fraction / 10 ^ fraction.length) * power)

theorem ofDigits_eq (ds : List ℕ) : ofDigits ds = placeValue ds := by
  induction ds using List.reverseRecOn with
  | nil => rfl
  | append_singleton ds d ih =>
    rw [placeValue, List.reverse_append, List.reverse_singleton, List.singleton_append,
      Nat.ofDigits_cons, ofDigits, List.foldl_append]
    show 10 * ofDigits ds + d = d + 10 * placeValue ds
    rw [ih, Nat.add_comm]

theorem placeValue_append (ds es : List ℕ) :
    placeValue (ds ++ es) = placeValue ds * 10 ^ es.length + placeValue es := by
  rw [placeValue, List.reverse_append, Nat.ofDigits_append, List.length_reverse, Nat.add_comm,
    Nat.mul_comm]
  rfl

/-- **A numeral denotes its coefficient times a power of ten.** -/
theorem Numeral.value_eq (n : Numeral) :
    n.value = signed n.negative (n.coefficient * 10 ^ n.exponent) := by
  obtain ⟨negative, whole, fraction, power⟩ := n
  have hten : (10 : ℚ) ≠ 0 := by decide
  simp only [value, coefficient, exponent, digits, ofDigits_eq, placeValue_append]
  push_cast
  congr 1
  match power with
  | none =>
    rw [zero_sub, zpow_neg, zpow_natCast]
    field_simp
  | some (false, ds) =>
    simp only [applySign, Bool.false_eq_true, if_false]
    rw [zpow_sub₀ hten, zpow_natCast, zpow_natCast]
    field_simp
  | some (true, ds) =>
    simp only [applySign, if_true]
    rw [zpow_sub₀ hten, zpow_neg, zpow_natCast, zpow_natCast]
    field_simp

end Db2Client.Number
