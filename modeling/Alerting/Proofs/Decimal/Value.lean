import Alerting.Decimal.Basic
import Alerting.Proofs.Double.Scientific

/-!
# Decimals by their numbers

The double of a decimal depends only on the number that the decimal spells, and
the number of a finite double has that double.
-/
namespace Alerting.Decimal
open Double
open Float.Model.UnpackedFloat (Sign)

def value (d : Decimal) : ℚ := d.digits * 10 ^ d.exponent

theorem value_eq_zero {d : Decimal} : d.value = 0 ↔ d.digits = 0 := by
  have hpow : (10 : ℚ) ^ d.exponent ≠ 0 := (zpow_pos (by norm_num) _).ne'
  rw [value, mul_eq_zero, or_iff_left hpow, Nat.cast_eq_zero]

/-! ## The power of ten above a number -/

theorem digitCount_le_iff {n k : ℕ} (hk : 0 < k) : digitCount n ≤ k ↔ n < 10 ^ k :=
  Nat.length_toDigits_le_iff (by decide) hk

theorem digitCount_pos (n : ℕ) : 0 < digitCount n := Nat.length_toDigits_pos

theorem digitCount_le_log2 (n : ℕ) : digitCount n ≤ n.log2 + 1 := by
  rw [digitCount_le_iff (Nat.succ_pos _)]
  exact Nat.lt_log2_self.trans_le (Nat.pow_le_pow_left (by decide) _)

theorem above_le_iff {d : Decimal} (hd : d.digits ≠ 0) (z : ℤ) :
    d.exponent + digitCount d.digits ≤ z ↔ d.value < 10 ^ z := by
  have hten : (0 : ℚ) < 10 ^ d.exponent := zpow_pos (by norm_num) _
  have hvalue : d.value < 10 ^ z ↔ (d.digits : ℚ) < 10 ^ (z - d.exponent) := by
    rw [value, zpow_sub₀ (by norm_num), lt_div_iff₀ hten]
  rw [hvalue]
  by_cases hz : 0 < z - d.exponent
  · have hpower : (10 : ℚ) ^ (z - d.exponent) = (10 ^ (z - d.exponent).toNat : ℕ) := by
      push_cast
      rw [← zpow_natCast, Int.toNat_of_nonneg hz.le]
    rw [hpower, Nat.cast_lt, ← digitCount_le_iff (by omega)]
    omega
  · have hcount := digitCount_pos d.digits
    have hone : (1 : ℚ) ≤ d.digits := Nat.one_le_cast.mpr (Nat.pos_of_ne_zero hd)
    have hle : (10 : ℚ) ^ (z - d.exponent) ≤ 1 := zpow_le_one_of_nonpos₀ (by norm_num) (by omega)
    exact iff_of_false (by omega) (not_lt.mpr (hle.trans hone))

/-! ## The double of a number -/

/-- The double of a decimal by its number. -/
theorem toFloat_eq {d : Decimal} (hd : d.digits ≠ 0) :
    d.toFloat = if 10 ^ (309 : ℤ) ≤ d.value then infinity
      else if d.value < 10 ^ (-324 : ℤ) then 0.0
      else ofParts (nearest .positive d.value) := by
  have hfar : 309 < d.exponent + digitCount d.digits ↔ 10 ^ (309 : ℤ) ≤ d.value := by
    rw [← not_lt, ← above_le_iff hd, not_le]
  have hnear : d.exponent + digitCount d.digits < -323 ↔ d.value < 10 ^ (-324 : ℤ) := by
    rw [← above_le_iff hd]
    omega
  rw [toFloat, if_neg hd]
  simp only [hfar, hnear]
  split
  · rfl
  · rename_i hupper
    split
    · rfl
    · rename_i hlower
      rw [← hfar] at hupper
      rw [← hnear] at hlower
      have hcount := digitCount_pos d.digits
      have hlog := digitCount_le_log2 d.digits
      exact ofScientific_eq (Nat.pos_of_ne_zero hd) (by omega) (by omega)

/-- Decimals of the same number have the same double. -/
theorem toFloat_congr {d d' : Decimal} (h : d.value = d'.value) : d.toFloat = d'.toFloat := by
  by_cases hd : d.digits = 0
  · have hd' : d'.digits = 0 := by rw [← value_eq_zero, ← h, value_eq_zero, hd]
    rw [toFloat, toFloat, if_pos hd, if_pos hd']
  · have hd' : d'.digits ≠ 0 := by rwa [ne_eq, ← value_eq_zero, ← h, value_eq_zero]
    rw [toFloat_eq hd, toFloat_eq hd', h]

theorem two_pow_1024_lt : (2 : ℚ) ^ 1024 < 10 ^ 309 := by
  have hquarter : (2 : ℚ) ^ 256 < 116 * 10 ^ 75 := by norm_num
  calc (2 : ℚ) ^ 1024 = (2 ^ 256) ^ 4 := by rw [← pow_mul]
    _ < (116 * 10 ^ 75) ^ 4 := pow_lt_pow_left₀ hquarter (by positivity) (by decide)
    _ = 116 ^ 4 * 10 ^ 300 := by rw [mul_pow, ← pow_mul]
    _ ≤ 10 ^ 9 * 10 ^ 300 := by gcongr; norm_num
    _ = 10 ^ 309 := by rw [← pow_add]

theorem two_pow_1074_le : (2 : ℚ) ^ 1074 ≤ 10 ^ 324 := by
  have hsixth : (2 : ℚ) ^ 179 ≤ 10 ^ 54 := by norm_num
  calc (2 : ℚ) ^ 1074 = (2 ^ 179) ^ 6 := by rw [← pow_mul]
    _ ≤ (10 ^ 54) ^ 6 := pow_le_pow_left₀ (by positivity) hsixth 6
    _ = 10 ^ 324 := by rw [← pow_mul]

/-- The number of a positive double reads back as the double. -/
theorem toFloat_of_value {d : Decimal} {x : Float} {m : ℕ} {e : ℤ} {hpos : 0 < m}
    (hx : parts x = .finite .positive m e hpos) (hd : d.value = m * 2 ^ e) : d.toFloat = x := by
  have hfits : Fits m e := by
    have hrep := representable_parts x
    rwa [hx] at hrep
  have hpow : (0 : ℚ) < 2 ^ e := zpow_pos two_pos e
  have hm : (1 : ℚ) ≤ m := Nat.one_le_cast.mpr hpos
  have hdigits : d.digits ≠ 0 := by
    rw [ne_eq, ← value_eq_zero, hd]
    positivity
  have hupper : ¬10 ^ (309 : ℤ) ≤ d.value := by
    rw [hd, not_le]
    calc (m * 2 ^ e : ℚ) ≤ 2 ^ 53 * 2 ^ (971 : ℤ) := by
          have hsmall : (m : ℚ) ≤ 2 ^ 53 := by exact_mod_cast hfits.small.le
          have hpower : (2 : ℚ) ^ e ≤ 2 ^ (971 : ℤ) := zpow_le_zpow_right₀ one_le_two hfits.upper
          exact mul_le_mul hsmall hpower hpow.le (by positivity)
      _ = 2 ^ 1024 := by rw [← zpow_natCast, ← zpow_natCast, ← zpow_add₀ two_ne_zero]; rfl
      _ < 10 ^ (309 : ℤ) := two_pow_1024_lt
  have hlower : ¬d.value < 10 ^ (-324 : ℤ) := by
    rw [hd, not_lt]
    calc (10 : ℚ) ^ (-324 : ℤ) = (10 ^ 324)⁻¹ := by rw [zpow_neg]; rfl
      _ ≤ (2 ^ 1074)⁻¹ := inv_anti₀ (by positivity) two_pow_1074_le
      _ = 2 ^ (-1074 : ℤ) := by rw [zpow_neg]; rfl
      _ ≤ 2 ^ e := zpow_le_zpow_right₀ one_le_two hfits.lower
      _ ≤ m * 2 ^ e := le_mul_of_one_le_left hpow.le hm
  rw [toFloat_eq hdigits, if_neg hupper, if_neg hlower, hd, ofParts_nearest hx]

/-- The double of a decimal is finite or infinite. -/
theorem isFinite_of_isInf_eq_false {d : Decimal} (h : d.toFloat.isInf = false) :
    d.toFloat.isFinite = true := by
  by_cases hd : d.digits = 0
  · rw [toFloat, if_pos hd]
    rfl
  · rw [toFloat_eq hd] at h ⊢
    split_ifs at h ⊢
    · cases h
    · rfl
    · cases hnearest : nearest .positive d.value with
      | zero s => cases s <;> rfl
      | finite s m e hpos =>
        rw [hnearest] at h
        by_cases he : e ≤ 971
        · exact isFinite_ofParts he
        · rw [isInf_ofParts (not_le.mp he)] at h
          cases h
      | _ =>
        rw [nearest] at hnearest
        split at hnearest <;> cases hnearest

/-- Whole numbers of 64 bits have finite doubles. -/
theorem isFinite_toFloat {n : ℕ} (hn : n < 2 ^ 64) : (toFloat ⟨n, 0⟩).isFinite = true := by
  by_cases hzero : n = 0
  · subst hzero
    rfl
  · have hvalue : value ⟨n, 0⟩ = n := by rw [value, zpow_zero, mul_one]
    have hone : (1 : ℚ) ≤ n := Nat.one_le_cast.mpr (Nat.pos_of_ne_zero hzero)
    have hlt : (n : ℚ) < 2 ^ 64 := by exact_mod_cast hn
    have hupper : ¬10 ^ (309 : ℤ) ≤ value ⟨n, 0⟩ := by
      rw [hvalue, not_le]
      exact hlt.trans ((pow_le_pow_right₀ one_le_two (by decide)).trans_lt two_pow_1024_lt)
    have hlower : ¬value ⟨n, 0⟩ < 10 ^ (-324 : ℤ) := by
      rw [hvalue, not_lt]
      exact (zpow_le_one_of_nonpos₀ (by norm_num) (by norm_num)).trans hone
    have hscale : scale n ≤ 11 := by
      have hlog := (Int.lt_zpow_iff_log_lt (b := 2) one_lt_two (one_pos.trans_le hone)
        (x := 64)).mp (by exact_mod_cast hlt)
      rw [scale]
      omega
    rw [toFloat_eq hzero, if_neg hupper, if_neg hlower, hvalue]
    cases h : nearest .positive (n : ℚ) with
    | zero s => cases s <;> rfl
    | finite s m e hpos =>
      have he := exponent_nearest_le (one_pos.trans_le hone) h
      exact isFinite_ofParts (by omega)
    | _ =>
      rw [nearest] at h
      split at h <;> cases h

end Alerting.Decimal
