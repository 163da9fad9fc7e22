import Alerting.Binary64
import Alerting.Proofs.Double.Order

/-!
# The total order of doubles

Ranks order all doubles: as numbers where these differ, zeros by their signs, and what is no number
at the end that its sign says, by its payload.
-/
namespace Alerting.Binary64
open Double
open Float.Model.UnpackedFloat (Sign)

@[simp] theorem toFloat_ofFloat (x : Float) : (ofFloat x).toFloat = x := Float.ofBits_toBits x

/-- A number has no other bits than its value. -/
theorem ofFloat_toFloat {x : Binary64} (hx : x.toFloat.isNaN = false) : ofFloat x.toFloat = x :=
  congrArg mk (toBits_ofBits (isNaN_eq_false_iff.mp hx))

theorem bits_lt (x : Binary64) : x.bits.toNat < 2 ^ 64 := x.bits.toNat_lt

theorem signBit_eq_true_iff {x : Binary64} : x.signBit = true ↔ 2 ^ 63 ≤ x.bits.toNat :=
  decide_eq_true_iff

theorem signBit_eq_false_iff {x : Binary64} : x.signBit = false ↔ x.bits.toNat < 2 ^ 63 := by
  rw [← Bool.not_eq_true, signBit_eq_true_iff, not_le]

/-! ## Ranks -/

section
variable {x y : Binary64}

theorem rank_of_minus (hx : x.signBit = true) : x.rank = 2 ^ 64 - 1 - x.bits.toNat := if_pos hx

theorem rank_of_plus (hx : x.signBit = false) : x.rank = x.bits.toNat + 2 ^ 63 := by
  rw [rank, hx]
  rfl

theorem rank_lt_iff_of_minus (hx : x.signBit = true) (hy : y.signBit = true) :
    x.rank < y.rank ↔ y.bits < x.bits := by
  have hxlt := x.bits_lt
  have hylt := y.bits_lt
  rw [rank_of_minus hx, rank_of_minus hy, UInt64.lt_iff_toNat_lt]
  omega

theorem rank_lt_iff_of_plus (hx : x.signBit = false) (hy : y.signBit = false) :
    x.rank < y.rank ↔ x.bits < y.bits := by
  rw [rank_of_plus hx, rank_of_plus hy, UInt64.lt_iff_toNat_lt]
  omega

theorem rank_inj (h : x.rank = y.rank) : x = y := by
  have hxlt := x.bits_lt
  have hylt := y.bits_lt
  have hbits : x.bits.toNat = y.bits.toNat := by
    simp only [rank, signBit, decide_eq_true_eq] at h
    split at h <;> split at h <;> omega
  exact congrArg mk (UInt64.toNat_inj.mp hbits)

/-- The rank of a number grows with its place, and a zero with a minus comes before the other. -/
theorem rank_of_number (hx : x.toFloat.isNaN = false) :
    0 ≤ level x.toFloat ∧ (x.rank : ℤ) = 2 ^ 63 + level x.toFloat ∨
      level x.toFloat ≤ 0 ∧ (x.rank : ℤ) = 2 ^ 63 - 1 + level x.toFloat := by
  obtain ⟨s, w, hw, hbits, hplace⟩ := exists_magnitude hx
  rw [toFloat, hplace]
  cases s with
  | negative =>
    have hsign : Sign.negative.toBitVec.toNat = 1 := rfl
    rw [hsign] at hbits
    rw [rank_of_minus (signBit_eq_true_iff.mpr (by omega)), hbits, Sign.apply]
    omega
  | positive =>
    have hsign : Sign.positive.toBitVec.toNat = 0 := rfl
    rw [hsign] at hbits
    rw [rank_of_plus (signBit_eq_false_iff.mpr (by omega)), hbits, Sign.apply]
    omega

/-- The ranks of numbers lie between those of the infinities. -/
theorem rank_between (hx : x.toFloat.isNaN = false) :
    2 ^ 63 - 1 - 2047 * 2 ^ 52 ≤ x.rank ∧ x.rank ≤ 2 ^ 63 + 2047 * 2 ^ 52 := by
  have hrank := rank_of_number hx
  have hlower := neg_le_level x.toFloat
  have hupper := level_le x.toFloat
  omega

/-- What is no number has a larger magnitude than the infinities. -/
theorem bits_of_isNaN (hx : x.toFloat.isNaN = true) :
    2047 * 2 ^ 52 < x.bits.toNat % 2 ^ 63 := by
  obtain ⟨s, e, m, hbits, hparts⟩ := exists_word_ofBits x.bits
  rw [toFloat, isNaN_iff, hparts] at hx
  rcases unpack_cases s e m with
    ⟨-, -, hw⟩ | ⟨rfl, hm, -⟩ | ⟨-, -, hw⟩ | ⟨-, _, hw⟩ | ⟨-, -, hw⟩
  · rw [hw] at hx
    cases hx
  · have hones := (eq_ones_iff _).mp (rfl : (-1#11 : BitVec 11) = -1#_)
    have hpos := BitVec.toNat_pos_of_ne_zero hm
    have hlt := m.isLt
    rw [hbits, hones]
    omega
  all_goals
    rw [hw] at hx
    cases hx

theorem rank_lt_rank (h : x.toFloat < y.toFloat) : x.rank < y.rank := by
  obtain ⟨hx, hy, hlevel⟩ := lt_iff.mp h
  have hrank := rank_of_number hx
  have hrank' := rank_of_number hy
  omega

theorem level_le_of_rank_le (hx : x.toFloat.isNaN = false) (hy : y.toFloat.isNaN = false)
    (h : x.rank ≤ y.rank) : level x.toFloat ≤ level y.toFloat := by
  have hrank := rank_of_number hx
  have hrank' := rank_of_number hy
  omega

theorem rank_lt_of_minus (hx : x.toFloat.isNaN = true) (hsign : x.signBit = true)
    (hy : y.toFloat.isNaN = false) : x.rank < y.rank := by
  have hbits := bits_of_isNaN hx
  have hlt := x.bits_lt
  have hminus := signBit_eq_true_iff.mp hsign
  have hbetween := rank_between hy
  rw [rank_of_minus hsign]
  omega

theorem rank_lt_of_plus (hx : x.toFloat.isNaN = false) (hy : y.toFloat.isNaN = true)
    (hsign : y.signBit = false) : x.rank < y.rank := by
  have hbits := bits_of_isNaN hy
  have hplus := signBit_eq_false_iff.mp hsign
  have hbetween := rank_between hx
  rw [rank_of_plus hsign]
  omega

end

/-- Numbers that order all doubles: by value, with a zero with a minus before the other, and with
what is no number first or last, as its sign says. Doubles of one sign go by their bits, so that
payloads count as well. -/
structure OrdersDoubles (order : Binary64 → ℕ) : Prop where
  injective : ∀ x y, order x = order y → x = y
  value : ∀ x y, x.toFloat < y.toFloat → order x < order y
  zeros : order (ofFloat (-0.0)) < order (ofFloat 0.0)
  first : ∀ x y, x.toFloat.isNaN = true → x.signBit = true → y.toFloat.isNaN = false →
    order x < order y
  last : ∀ x y, x.toFloat.isNaN = false → y.toFloat.isNaN = true → y.signBit = false →
    order x < order y
  descending : ∀ x y, x.signBit = true → y.signBit = true → (order x < order y ↔ y.bits < x.bits)
  ascending : ∀ x y, x.signBit = false → y.signBit = false → (order x < order y ↔ x.bits < y.bits)

theorem rank_ordersDoubles : OrdersDoubles rank where
  injective x y := rank_inj
  value x y := rank_lt_rank
  zeros := by decide
  first x y := rank_lt_of_minus
  last x y := rank_lt_of_plus
  descending x y := rank_lt_iff_of_minus
  ascending x y := rank_lt_iff_of_plus

end Alerting.Binary64
