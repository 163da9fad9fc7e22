import Alerting.Proofs.Double.Value

/-!
# Doubles from decimal notation

A whole number times a power of ten is read as the nearest double. Short numbers
take a path of their own with the same result.
-/
namespace Alerting.Double
open Decimal
open Float.Model (Format UnpackedFloat)
open Float.Model.UnpackedFloat (Sign)

/-! ## Exact doubles -/

theorem significand_powerOfTen : ∀ k : Fin Float.exactlyRepresentablePowersOfTen.size,
    let x := Float.exactlyRepresentablePowersOfTen[k]
    x.isFinite = true ∧ signBit x = false ∧ (significand x).1 ≠ 0 ∧ -52 ≤ (significand x).2 ∧
      (significand x).1 * 2 ^ ((significand x).2 + 52).toNat = 10 ^ k.val * 2 ^ 52 := by
  decide +kernel

/-- The small powers of ten are doubles. -/
theorem parts_powerOfTen {k : ℕ} (hk : k < Float.exactlyRepresentablePowersOfTen.size) :
    ∃ m e hpos, parts Float.exactlyRepresentablePowersOfTen[k] = .finite .positive m e hpos ∧
      (m * 2 ^ e : ℚ) = 10 ^ k := by
  obtain ⟨hfinite, hsign, hzero, hlower, hvalue⟩ := significand_powerOfTen ⟨k, hk⟩
  change Float.exactlyRepresentablePowersOfTen[k].isFinite = true at hfinite
  change signBit Float.exactlyRepresentablePowersOfTen[k] = false at hsign
  change (significand Float.exactlyRepresentablePowersOfTen[k]).1 ≠ 0 at hzero
  change -52 ≤ (significand Float.exactlyRepresentablePowersOfTen[k]).2 at hlower
  rcases parts_of_isFinite hfinite with ⟨s, h⟩ | ⟨s, m, e, hpos, h⟩
  · rw [(bits_of_zero h).1] at hzero
    exact absurd rfl hzero
  · obtain ⟨hbits, hs⟩ := bits_of_finite h
    change (significand Float.exactlyRepresentablePowersOfTen[k]).1 *
      2 ^ ((significand Float.exactlyRepresentablePowersOfTen[k]).2 + 52).toNat = _ at hvalue
    rw [hbits] at hlower hvalue
    cases s with
    | negative => exact absurd (hs.mpr rfl) (by simp [hsign])
    | positive =>
      refine ⟨m, e, hpos, h, ?_⟩
      have hshift : ((e + 52).toNat : ℤ) = e + 52 := Int.toNat_of_nonneg (by omega)
      have hcast : (m * 2 ^ (e + 52).toNat : ℚ) = 10 ^ k * 2 ^ 52 := by exact_mod_cast hvalue
      rw [← zpow_natCast, hshift, zpow_add₀ two_ne_zero, ← mul_assoc] at hcast
      exact mul_right_cancel₀ (by positivity) hcast

/-- Whole numbers of at most 53 bits are doubles. -/
theorem parts_toFloat {m : ℕ} (hpos : 0 < m) (hm : m < 2 ^ 53) :
    ∃ m' e hpos', parts m.toUInt64.toFloat = .finite .positive m' e hpos' ∧
      (m' * 2 ^ e : ℚ) = m ∧ 2 ^ 52 ≤ m' := by
  have hlog : m.log2 ≤ 52 := Nat.lt_succ_iff.mp ((Nat.log2_lt hpos.ne').mpr hm)
  have hword : m.toUInt64.toNat = m := by
    rw [Nat.toUInt64_eq, UInt64.toNat_ofNat', Nat.mod_eq_of_lt (by omega)]
  have hfloat : m.toUInt64.toFloat = ofParts (UnpackedFloat.ofNat Format.binary64 m) := by
    conv_rhs => rw [← hword]
    rfl
  have hvalue : ((m * 2 ^ (52 - m.log2) : ℕ) * 2 ^ ((m.log2 : ℤ) - 52) : ℚ) = m := by
    have hshift : (m.log2 : ℤ) - 52 = -((52 - m.log2 : ℕ) : ℤ) := by omega
    rw [hshift, zpow_neg, zpow_natCast]
    push_cast
    field_simp
  have hlo : 2 ^ 52 ≤ m * 2 ^ (52 - m.log2) := by
    calc 2 ^ 52 = 2 ^ m.log2 * 2 ^ (52 - m.log2) := by rw [← pow_add]; congr 1; omega
      _ ≤ m * 2 ^ (52 - m.log2) := Nat.mul_le_mul_right _ (Nat.log2_self_le hpos.ne')
  have hhi : m * 2 ^ (52 - m.log2) < 2 ^ 53 := by
    calc m * 2 ^ (52 - m.log2) < 2 ^ (m.log2 + 1) * 2 ^ (52 - m.log2) :=
          Nat.mul_lt_mul_of_pos_right Nat.lt_log2_self (by positivity)
      _ = 2 ^ 53 := by rw [← pow_add]; congr 1; omega
  have hfits : Fits (m * 2 ^ (52 - m.log2)) ((m.log2 : ℤ) - 52) :=
    ⟨hhi, by omega, by omega, .inl hlo⟩
  have hpos' : 0 < m * 2 ^ (52 - m.log2) := by positivity
  refine ⟨_, _, hpos', ?_, hvalue, hlo⟩
  rw [hfloat, ofNat_eq hpos, ← hvalue, nearest_of_scale hpos' (scale_of_fits hfits hpos'),
    parts_ofParts (by exact hfits)]

/-! ## Reading -/

theorem mul_eq {x y : Float} {m₁ m₂ : ℕ} {e₁ e₂ : ℤ} {h₁ : 0 < m₁} {h₂ : 0 < m₂}
    (hx : parts x = .finite .positive m₁ e₁ h₁) (hy : parts y = .finite .positive m₂ e₂ h₂)
    (hfull : 2 ^ 52 ≤ m₁) :
    x * y = ofParts (nearest .positive (m₁ * 2 ^ e₁ * (m₂ * 2 ^ e₂))) := by
  have hmul : x * y = ofParts (UnpackedFloat.mul Format.binary64 (parts x) (parts y)) := rfl
  have hlog : e₁ + e₂ + 52 ≤ Int.log 2 (m₁ * 2 ^ e₁ * (m₂ * 2 ^ e₂) : ℚ) := by
    have hvalue : (m₁ * 2 ^ e₁ * (m₂ * 2 ^ e₂) : ℚ) = (m₁ * m₂ : ℕ) * 2 ^ (e₁ + e₂) := by
      rw [zpow_add₀ two_ne_zero]
      push_cast
      ring
    have hpos : 0 < m₁ * m₂ := Nat.mul_pos h₁ h₂
    have hfull' : 2 ^ 52 ≤ m₁ * m₂ := hfull.trans (Nat.le_mul_of_pos_right m₁ h₂)
    have hge := (Nat.le_log2 hpos.ne').mpr hfull'
    rw [hvalue, log_mul_zpow (Nat.cast_pos.mpr hpos), log_of_one_le (Nat.one_le_cast.mpr hpos),
      Nat.floor_natCast]
    omega
  rw [hmul, hx, hy, mul_finite]
  · rfl
  · rw [scale]
    omega

theorem div_eq {x y : Float} {m₁ m₂ : ℕ} {e₁ e₂ : ℤ} {h₁ : 0 < m₁} {h₂ : 0 < m₂}
    (hx : parts x = .finite .positive m₁ e₁ h₁) (hy : parts y = .finite .positive m₂ e₂ h₂) :
    x / y = ofParts (nearest .positive (m₁ * 2 ^ e₁ / (m₂ * 2 ^ e₂))) := by
  have hdiv : x / y = ofParts (UnpackedFloat.div Format.binary64 (parts x) (parts y)) := rfl
  rw [hdiv, hx, hy, div_finite]
  rfl

section
variable {m : ℕ} (hm : 0 < m) {e : ℤ}

theorem zpow_natAbs_of_neg (he : e < 0) : (10 : ℚ) ^ e = (10 ^ e.natAbs)⁻¹ := by
  rw [← zpow_natCast, ← zpow_neg]
  congr 1
  omega

theorem zpow_natAbs_of_nonneg (he : 0 ≤ e) : (10 : ℚ) ^ e = 10 ^ e.natAbs := by
  rw [← zpow_natCast]
  congr 1
  omega

/-- An exponent from its sign and its magnitude. -/
theorem exponent_eq (e : ℤ) :
    (if decide (e < 0) = true then Int.negOfNat e.natAbs else Int.ofNat e.natAbs) = e := by
  by_cases he : e < 0
  · rw [if_pos (decide_eq_true he), Int.negOfNat_eq, Int.ofNat_eq_natCast]
    omega
  · rw [if_neg (by simpa using he), Int.ofNat_eq_natCast]
    omega

include hm

/-- Short numbers are one product or quotient of doubles. -/
theorem ofScientific_short (hshort : m < 2 ^ 53)
    (hk : e.natAbs < Float.exactlyRepresentablePowersOfTen.size) :
    (if decide (e < 0) = true then
        m.toUInt64.toFloat / Float.exactlyRepresentablePowersOfTen[e.natAbs]
      else m.toUInt64.toFloat * Float.exactlyRepresentablePowersOfTen[e.natAbs]) =
      ofParts (nearest .positive (m * 10 ^ e)) := by
  obtain ⟨m₁, e₁, h₁, hx, hvalue₁, hfull⟩ := parts_toFloat hm hshort
  obtain ⟨m₂, e₂, h₂, hy, hvalue₂⟩ := parts_powerOfTen hk
  by_cases he : e < 0
  · rw [if_pos (decide_eq_true he), div_eq hx hy, hvalue₁, hvalue₂, zpow_natAbs_of_neg he,
      div_eq_mul_inv]
  · rw [if_neg (by simpa using he), mul_eq hx hy hfull, hvalue₁, hvalue₂,
      zpow_natAbs_of_nonneg (not_lt.mp he)]

theorem mul_shifted (he : 0 ≤ e) :
    ((m <<< Format.binary64.mantissaBits : ℕ) * 2 ^ (-(Format.binary64.mantissaBits : ℤ)) *
      ((10 ^ e.toNat : ℕ) * 2 ^ (0 : ℤ)) : ℚ) = m * 10 ^ e ∧ (1 : ℚ) ≤ m * 10 ^ e := by
  have hpower : (10 : ℚ) ^ e = (10 ^ e.toNat : ℕ) := by
    push_cast
    rw [← zpow_natCast, Int.toNat_of_nonneg he]
  constructor
  · rw [hpower, Nat.shiftLeft_eq, zpow_neg, zpow_natCast, zpow_zero, mul_one]
    push_cast
    field_simp
  · rw [hpower]
    exact_mod_cast Nat.mul_pos hm (Nat.pow_pos (by decide))

/-- Long numbers are rounded once. -/
theorem ofScientific_long (hupper : e ≤ 2048) (hlower : -(2048 + m.log2) ≤ e) :
    UnpackedFloat.ofScientific Format.binary64 m e = nearest .positive (m * 10 ^ e) := by
  rw [UnpackedFloat.ofScientific, dif_neg hm.ne', if_neg (by simpa using hupper),
    if_neg (by simpa using hlower)]
  by_cases he : 0 ≤ e
  · obtain ⟨hvalue, hone⟩ := mul_shifted hm he
    have hbits : (Format.binary64.mantissaBits : ℤ) = 53 := rfl
    rw [if_pos he, mul_finite, hvalue]
    · rfl
    · rw [hvalue, scale, log_of_one_le hone, hbits]
      omega
  · have hpower : (10 : ℚ) ^ e = ((10 ^ (-e).toNat : ℕ) : ℚ)⁻¹ := by
      push_cast
      rw [← zpow_natCast, Int.toNat_of_nonneg (by omega), zpow_neg, inv_inv]
    rw [if_neg he, div_finite, hpower]
    congr 1
    rw [zpow_zero, mul_one, mul_one, div_eq_mul_inv]

/-- Decimal notation is read as the nearest double. -/
theorem ofScientific_eq (hupper : e ≤ 2048) (hlower : -(2048 + m.log2) ≤ e) :
    Float.ofScientific m (e < 0) e.natAbs = ofParts (nearest .positive (m * 10 ^ e)) := by
  rw [Float.ofScientific]
  split
  · rename_i hshort
    exact ofScientific_short hm hshort.1 (Nat.lt_succ_of_le hshort.2)
  · rw [exponent_eq]
    change ofParts (UnpackedFloat.ofScientific Format.binary64 m e) = _
    rw [ofScientific_long hm hupper hlower]

end

end Alerting.Double
