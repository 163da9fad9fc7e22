import Alerting.Proofs.Double.Order
import Alerting.Proofs.Double.Scientific

/-!
# Sums and quotients of doubles

A sum or a quotient of finite doubles is the exact number rounded to the digits of a double, unless
it is too large for one. Rounding stops at every number with these digits, so that it never passes a
double.
-/
namespace Alerting.Double
open Float.Model (Format UnpackedFloat)
open Float.Model.UnpackedFloat

/-! ## Rounding to whole numbers -/

/-- The whole number nearest to a number, of two the even one. -/
def whole (q : ℚ) : ℕ := (bits q).roundedMantissa

theorem whole_natCast (n : ℕ) : whole n = n := by
  rw [whole, ← bits_natCast]
  rfl

theorem mantissa_le (m : ExtendedMantissa) : m.mantissa ≤ m.roundedMantissa := by
  obtain ⟨mantissa, roundBit, stickyBit⟩ := m
  cases roundBit <;> cases stickyBit <;>
    simp [ExtendedMantissa.roundedMantissa, ExtendedMantissa.accuracy,
      Accuracy.roundToNearestEven]

theorem le_whole {n : ℕ} {q : ℚ} (h : n ≤ q) : n ≤ whole q :=
  (Nat.le_floor h).trans (mantissa_le (bits q))

theorem whole_le {n : ℕ} {q : ℚ} (hq : 0 ≤ q) (h : q ≤ n) : whole q ≤ n := by
  rcases h.eq_or_lt with rfl | hlt
  · rw [whole_natCast]
  · exact (roundedMantissa_le (bits q)).trans ((Nat.floor_lt hq).mpr hlt)

/-! ## Rounding to the digits of a double -/

/-- A positive number rounded to the digits of a double, with any exponent above the least. -/
def roundedMagnitude (v : ℚ) : ℚ := whole (v / 2 ^ scale v) * 2 ^ scale v

/-- A number with the digits of a double. -/
def OnGrid (q : ℚ) : Prop := ∃ m e : ℤ, |m| ≤ 2 ^ 53 ∧ -1074 ≤ e ∧ q = m * 2 ^ e

theorem neg_le_scale (v : ℚ) : -1074 ≤ scale v := le_max_right _ _

/-- Unless the exponent is the least, all places before the last one are taken. -/
theorem full_le {v : ℚ} (hv : 0 < v) (hscale : -1074 < scale v) : 2 ^ 52 * 2 ^ scale v ≤ v := by
  have hlog : scale v = Int.log 2 v - 52 := by
    rw [scale] at hscale ⊢
    omega
  have hpow : (2 : ℚ) ^ 52 * 2 ^ scale v = 2 ^ Int.log 2 v := by
    rw [← zpow_natCast, ← zpow_add₀ two_ne_zero, hlog]
    congr 1
    omega
  rw [hpow]
  exact ((log_eq_iff hv).mp rfl).1

/-- Between a number and one with the digits of a double there is one with the last place of the
first. -/
theorem exists_between {m : ℕ} {e : ℤ} (hm : m ≤ 2 ^ 53) (he : -1074 ≤ e) {v : ℚ} (hv : 0 < v) :
    ∃ n : ℕ, ((m * 2 ^ e : ℚ) ≤ v → (m * 2 ^ e : ℚ) ≤ n * 2 ^ scale v ∧ n * 2 ^ scale v ≤ v) ∧
      (v ≤ m * 2 ^ e → v ≤ n * 2 ^ scale v ∧ (n * 2 ^ scale v : ℚ) ≤ m * 2 ^ e) := by
  by_cases hle : scale v ≤ e
  · have hexact : ((m * 2 ^ (e - scale v).toNat : ℕ) * 2 ^ scale v : ℚ) = m * 2 ^ e := by
      push_cast
      rw [← zpow_natCast, Int.toNat_of_nonneg (by omega), mul_assoc, ← zpow_add₀ two_ne_zero,
        sub_add_cancel]
    refine ⟨m * 2 ^ (e - scale v).toNat, fun h => ?_, fun h => ?_⟩
    · rw [hexact]
      exact ⟨le_rfl, h⟩
    · rw [hexact]
      exact ⟨h, le_rfl⟩
  · -- A number with all places taken lies between the two.
    have hfull := full_le hv (by omega)
    have hbelow : (m * 2 ^ e : ℚ) ≤ (2 ^ 52 : ℕ) * 2 ^ scale v := by
      have hpow : (2 : ℚ) ^ e ≤ 2 ^ (scale v - 1) := zpow_le_zpow_right₀ one_le_two (by omega)
      calc (m * 2 ^ e : ℚ) ≤ 2 ^ 53 * 2 ^ (scale v - 1) :=
            mul_le_mul (by exact_mod_cast hm) hpow (zpow_pos two_pos e).le (by positivity)
        _ = (2 ^ 52 : ℕ) * 2 ^ scale v := by
            rw [zpow_sub_one₀ two_ne_zero]
            push_cast
            ring
    have hfull' : ((2 ^ 52 : ℕ) * 2 ^ scale v : ℚ) ≤ v := by exact_mod_cast hfull
    exact ⟨2 ^ 52, fun _ => ⟨hbelow, hfull'⟩, fun h => ⟨h.trans hbelow, hfull'.trans h⟩⟩

section
variable {m : ℕ} {e : ℤ} (hm : m ≤ 2 ^ 53) (he : -1074 ≤ e) {v : ℚ} (hv : 0 < v)
include hm he hv

theorem le_roundedMagnitude (h : m * 2 ^ e ≤ v) : m * 2 ^ e ≤ roundedMagnitude v := by
  obtain ⟨n, hbelow, -⟩ := exists_between hm he hv
  obtain ⟨hn, hnv⟩ := hbelow h
  refine hn.trans (mul_le_mul_of_nonneg_right ?_ (zpow_pos two_pos _).le)
  exact Nat.cast_le.mpr (le_whole ((le_div_iff₀ (zpow_pos two_pos _)).mpr hnv))

theorem roundedMagnitude_le (h : v ≤ m * 2 ^ e) : roundedMagnitude v ≤ m * 2 ^ e := by
  obtain ⟨n, -, habove⟩ := exists_between hm he hv
  obtain ⟨hvn, hn⟩ := habove h
  refine (mul_le_mul_of_nonneg_right ?_ (zpow_pos two_pos _).le).trans hn
  have hquotient : 0 ≤ v / 2 ^ scale v := (div_pos hv (zpow_pos two_pos _)).le
  exact Nat.cast_le.mpr (whole_le hquotient ((div_le_iff₀ (zpow_pos two_pos _)).mpr hvn))

end

theorem roundedMagnitude_nonneg (v : ℚ) : 0 ≤ roundedMagnitude v :=
  mul_nonneg (Nat.cast_nonneg _) (zpow_pos two_pos _).le

def rounded (q : ℚ) : ℚ := if 0 ≤ q then roundedMagnitude q else -roundedMagnitude (-q)

theorem rounded_zero : rounded 0 = 0 := by
  have hwhole : whole (0 / 2 ^ scale 0) = 0 := by
    rw [zero_div]
    exact_mod_cast whole_natCast 0
  rw [rounded, if_pos le_rfl, roundedMagnitude, hwhole, Nat.cast_zero, zero_mul]

theorem rounded_neg (q : ℚ) : rounded (-q) = -rounded q := by
  rcases lt_trichotomy q 0 with hneg | rfl | hpos
  · rw [rounded, rounded, if_pos (neg_nonneg.mpr hneg.le), if_neg (not_le.mpr hneg), neg_neg]
  · rw [neg_zero, rounded_zero, neg_zero]
  · rw [rounded, rounded, if_neg (not_le.mpr (neg_neg_of_pos hpos)), if_pos hpos.le, neg_neg]

theorem OnGrid.neg {g : ℚ} (hg : OnGrid g) : OnGrid (-g) := by
  obtain ⟨m, e, hm, he, rfl⟩ := hg
  exact ⟨-m, e, by rwa [abs_neg], he, by push_cast; ring⟩

theorem OnGrid.two_mul {g : ℚ} (hg : OnGrid g) : OnGrid (2 * g) := by
  obtain ⟨m, e, hm, he, rfl⟩ := hg
  refine ⟨m, e + 1, hm, by omega, ?_⟩
  rw [zpow_add_one₀ two_ne_zero]
  ring

/-- A number on the grid that is not negative. -/
theorem OnGrid.exists_natCast {g : ℚ} (hg : OnGrid g) (h : 0 ≤ g) :
    ∃ (m : ℕ) (e : ℤ), m ≤ 2 ^ 53 ∧ -1074 ≤ e ∧ g = m * 2 ^ e := by
  obtain ⟨m, e, hm, he, rfl⟩ := hg
  have hpos : (0 : ℚ) ≤ m := nonneg_of_mul_nonneg_left h (zpow_pos two_pos e)
  have hnonneg : 0 ≤ m := Int.cast_nonneg_iff.mp hpos
  refine ⟨m.toNat, e, ?_, he, ?_⟩
  · rw [abs_of_nonneg hnonneg] at hm
    omega
  · have hcast : ((m.toNat : ℤ) : ℚ) = m := by rw [Int.toNat_of_nonneg hnonneg]
    rw [← hcast]
    rfl

/-- Rounding down stops at a number on the grid. -/
theorem le_rounded {g q : ℚ} (hg : OnGrid g) (h : g ≤ q) : g ≤ rounded q := by
  by_cases hq : 0 ≤ q
  · rw [rounded, if_pos hq]
    rcases le_or_gt g 0 with hneg | hpos
    · exact hneg.trans (roundedMagnitude_nonneg q)
    · obtain ⟨m, e, hm, he, rfl⟩ := hg.exists_natCast hpos.le
      exact le_roundedMagnitude hm he (hpos.trans_le h) h
  · rw [not_le] at hq
    obtain ⟨m, e, hm, he, hge⟩ := hg.neg.exists_natCast (neg_nonneg.mpr (h.trans hq.le))
    rw [rounded, if_neg (not_le.mpr hq), le_neg, hge]
    refine roundedMagnitude_le hm he (neg_pos.mpr hq) ?_
    rw [← hge]
    exact neg_le_neg h

/-- Rounding up stops at a number on the grid. -/
theorem rounded_le {g q : ℚ} (hg : OnGrid g) (h : q ≤ g) : rounded q ≤ g := by
  have hneg := le_rounded hg.neg (neg_le_neg h)
  rw [rounded_neg] at hneg
  exact neg_le_neg_iff.mp hneg

theorem rounded_eq {g : ℚ} (hg : OnGrid g) : rounded g = g :=
  le_antisymm (rounded_le hg le_rfl) (le_rounded hg le_rfl)

theorem abs_rounded_le {g q : ℚ} (hg : OnGrid g) (h : |q| ≤ g) : |rounded q| ≤ g := by
  rw [abs_le] at h ⊢
  exact ⟨le_rounded hg.neg h.1, rounded_le hg h.2⟩

end Alerting.Double
