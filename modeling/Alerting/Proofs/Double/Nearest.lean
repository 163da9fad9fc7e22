import Mathlib

/-!
# The nearest double of a number

Products, quotients and whole numbers are rounded from a significand with two
more bits. What comes out depends only on the number that these stand for.
-/
namespace Alerting.Double
open Float.Model Float.Model.UnpackedFloat

/-- A number as its whole part, the next bit and whether anything follows. -/
def bits (q : ℚ) : ExtendedMantissa where
  mantissa := ⌊q⌋₊
  roundBit := ⌊2 * q⌋₊ % 2 != 0
  stickyBit := 2 * q ≠ ⌊2 * q⌋₊

theorem eq_floor_iff {q : ℚ} : q = ⌊q⌋₊ ↔ ∃ n : ℕ, q = n := by
  constructor
  · intro h
    exact ⟨_, h⟩
  · rintro ⟨n, rfl⟩
    rw [Nat.floor_natCast]

theorem eq_floor_half {q : ℚ} : q = ⌊q⌋₊ ↔ ⌊2 * q⌋₊ % 2 = 0 ∧ 2 * q = ⌊2 * q⌋₊ := by
  constructor
  · intro h
    have hdouble : 2 * q = (2 * ⌊q⌋₊ : ℕ) := by
      push_cast
      rw [← h]
    rw [hdouble, Nat.floor_natCast]
    exact ⟨Nat.mul_mod_right _ _, rfl⟩
  · rintro ⟨heven, hwhole⟩
    rw [eq_floor_iff]
    refine ⟨⌊2 * q⌋₊ / 2, ?_⟩
    obtain ⟨k, hk⟩ := Nat.dvd_of_mod_eq_zero heven
    rw [hk] at hwhole ⊢
    rw [Nat.mul_div_cancel_left k two_pos]
    push_cast at hwhole
    linarith

theorem shiftRightOne_bits (q : ℚ) : (bits q).shiftRightOne = bits (q / 2) := by
  have hdouble : 2 * (q / 2) = q := by ring
  have hfloor : ⌊q⌋₊ / 2 = ⌊q / 2⌋₊ := (Nat.floor_div_natCast q 2).symm
  simp only [bits, ExtendedMantissa.shiftRightOne, hdouble, hfloor, ExtendedMantissa.mk.injEq,
    true_and]
  rw [Bool.eq_iff_iff]
  simp only [Bool.or_eq_true, bne_iff_ne, decide_eq_true_iff, ne_eq]
  rw [eq_floor_half (q := q), not_and_or]

theorem shiftRight_bits (q : ℚ) (n : ℕ) : bits q >>> n = bits (q / 2 ^ n) := by
  change n.repeat ExtendedMantissa.shiftRightOne (bits q) = _
  induction n with
  | zero => rw [Nat.repeat, pow_zero, div_one]
  | succ n ih => rw [Nat.repeat, ih, shiftRightOne_bits, pow_succ, div_div]

theorem bits_natCast (m : ℕ) : ExtendedMantissa.ofMantissaAndAccuracy m .exact = bits m := by
  have hdouble : (2 * m : ℚ) = (2 * m : ℕ) := by push_cast; rfl
  simp only [bits, ExtendedMantissa.ofMantissaAndAccuracy, hdouble, Nat.floor_natCast,
    Nat.mul_mod_right]
  simp

/-- The bits of a quotient are those of twice the dividend. -/
theorem bits_quotient (a : ℕ) {b : ℕ} (hb : 0 < b) :
    bits (a / b) = ⟨a / b, 2 * a / b % 2 != 0, decide (2 * a % b ≠ 0)⟩ := by
  have hwhole : (2 * (a / b : ℚ) = (2 * a / b : ℕ)) ↔ 2 * a % b = 0 := by
    rw [← Nat.dvd_iff_mod_eq_zero]
    constructor
    · intro h
      refine ⟨2 * a / b, ?_⟩
      have hb' : (b : ℚ) ≠ 0 := by positivity
      field_simp at h
      exact_mod_cast h
    · rintro ⟨k, hk⟩
      rw [hk, Nat.mul_div_cancel_left k hb]
      field_simp
      exact_mod_cast hk
  have hdouble : 2 * (a / b : ℚ) = (2 * a : ℕ) / b := by push_cast; ring
  have hfloor : ⌊2 * (a / b : ℚ)⌋₊ = 2 * a / b := by rw [hdouble, Nat.floor_div_eq_div]
  simp only [bits, hfloor, Nat.floor_div_eq_div, ne_eq, hwhole]

/-- A quotient with the accuracy of its remainder. -/
theorem bits_div (a : ℕ) {b : ℕ} (hb : 0 < b) :
    ExtendedMantissa.ofMantissaAndAccuracy (a / b) (accuracyOfFraction (a % b) b) =
      bits (a / b) := by
  -- Twice the dividend leaves twice the remainder, which the divisor may go into once more.
  have hdivision : 2 * a = b * (2 * (a / b)) + 2 * (a % b) := by
    conv_lhs => rw [← Nat.div_add_mod a b]
    ring
  have hremainder := Nat.mod_lt a hb
  rw [bits_quotient a hb, hdivision, Nat.mul_add_div hb, Nat.mul_add_mod 2, Nat.mul_add_mod b,
    accuracyOfFraction]
  by_cases hzero : a % b = 0
  · simp [hzero, ExtendedMantissa.ofMantissaAndAccuracy]
  · rw [if_neg hzero]
    rcases Nat.lt_trichotomy (2 * (a % b)) b with hlt | heq | hgt
    · rw [Nat.compare_eq_lt.mpr hlt, Nat.div_eq_of_lt hlt, Nat.mod_eq_of_lt hlt]
      simp [hzero, ExtendedMantissa.ofMantissaAndAccuracy]
    · rw [Nat.compare_eq_eq.mpr heq, heq, Nat.div_self hb, Nat.mod_self]
      simp [ExtendedMantissa.ofMantissaAndAccuracy]
    · have hquotient : 2 * (a % b) / b = 1 := Nat.div_eq_of_lt_le (by omega) (by omega)
      have hrest : 2 * (a % b) % b = 2 * (a % b) - b := by
        rw [Nat.mod_eq_sub_mod hgt.le, Nat.mod_eq_of_lt (by omega)]
      rw [Nat.compare_eq_gt.mpr hgt, hquotient, hrest]
      simp [ExtendedMantissa.ofMantissaAndAccuracy]
      omega

/-! ## The place of the last digit -/

/-- The power of two of the last place of the double nearest to a positive number. -/
def scale (v : ℚ) : ℤ := max (Int.log 2 v - 52) (-1074)

theorem log_eq_iff {v : ℚ} (hv : 0 < v) {z : ℤ} :
    Int.log 2 v = z ↔ (2 : ℚ) ^ z ≤ v ∧ v < 2 ^ (z + 1) := by
  have hlower := Int.zpow_le_iff_le_log (b := 2) one_lt_two hv (x := z)
  have hupper := Int.lt_zpow_iff_log_lt (b := 2) one_lt_two hv (x := z + 1)
  push_cast at hlower hupper
  rw [hlower, hupper]
  omega

theorem log_mul_zpow {q : ℚ} (hq : 0 < q) (e : ℤ) : Int.log 2 (q * 2 ^ e) = Int.log 2 q + e := by
  obtain ⟨hlower, hupper⟩ := (log_eq_iff hq).mp rfl
  rw [log_eq_iff (mul_pos hq (zpow_pos two_pos e)), add_right_comm, zpow_add₀ two_ne_zero,
    zpow_add₀ two_ne_zero]
  have hpow : (0 : ℚ) < 2 ^ e := zpow_pos two_pos e
  exact ⟨mul_le_mul_of_nonneg_right hlower hpow.le, mul_lt_mul_of_pos_right hupper hpow⟩

theorem log_of_one_le {q : ℚ} (hq : 1 ≤ q) : Int.log 2 q = (⌊q⌋₊.log2 : ℤ) := by
  rw [Int.log_of_one_le_right 2 hq, Nat.log2_eq_log_two]

theorem targetExponent_eq (e : ℤ) :
    Format.binary64.targetExponent e = max (e - 53) (-1074) := by
  rfl

/-- The exponent for a significand is the one for the number, unless digits are missing. -/
theorem targetExponent_floor {q : ℚ} (hq : 0 < q) {e : ℤ} (he : e ≤ scale (q * 2 ^ e)) :
    Format.binary64.targetExponent (totalExponent ⌊q⌋₊ e) = scale (q * 2 ^ e) := by
  rw [targetExponent_eq, totalExponent]
  rw [scale, log_mul_zpow hq] at he ⊢
  by_cases hone : 1 ≤ q
  · rw [log_of_one_le hone]
    omega
  · have hlog : Int.log 2 q < 0 := by
      have hlt := Int.lt_zpow_iff_log_lt (b := 2) one_lt_two hq (x := 0)
      rw [zpow_zero] at hlt
      exact hlt.mp (not_le.mp hone)
    rw [Nat.floor_eq_zero.mpr (not_le.mp hone), Nat.log2_zero]
    omega

/-! ## Rounding -/

/-- The double nearest to a positive number. -/
def nearest (s : Sign) (v : ℚ) : UnpackedFloat :=
  let rounded := (bits (v / 2 ^ scale v)).roundedMantissa
  let carried := shiftToTargetExponent Format.binary64 rounded (scale v) .exact
  if h : carried.1.mantissa = 0 then .zero s
  else .finite s carried.1.mantissa carried.2 (Nat.pos_of_ne_zero h)

theorem roundWithAccuracy_eq {m : ℕ} {e : ℤ} {a : Accuracy} {q : ℚ} (hq : 0 < q)
    (hbits : ExtendedMantissa.ofMantissaAndAccuracy m a = bits q) (he : e ≤ scale (q * 2 ^ e))
    (s : Sign) : roundWithAccuracy Format.binary64 s m e a = nearest s (q * 2 ^ e) := by
  have hm : m = ⌊q⌋₊ := by
    have hmantissa := congrArg ExtendedMantissa.mantissa hbits
    rcases a with _ | (_ | _ | _) <;> exact hmantissa
  have hamount : ((scale (q * 2 ^ e) - e).toNat : ℤ) = scale (q * 2 ^ e) - e :=
    Int.toNat_of_nonneg (by omega)
  have hfirst : shiftToTargetExponent Format.binary64 m e a =
      (bits (q * 2 ^ e / 2 ^ scale (q * 2 ^ e)), scale (q * 2 ^ e)) := by
    have hshifted : q / 2 ^ (scale (q * 2 ^ e) - e).toNat = q * 2 ^ e / 2 ^ scale (q * 2 ^ e) := by
      rw [← zpow_natCast, hamount, zpow_sub₀ two_ne_zero]
      field_simp
    rw [shiftToTargetExponent, hm, targetExponent_floor hq he, shiftToExponent, ← hm, hbits,
      shiftRight_bits, hshifted, hamount]
    congr 1
    omega
  rw [roundWithAccuracy, hfirst]
  rfl

theorem shiftToTargetExponent_of_scale {m : ℕ} (hm : 0 < m) {e : ℤ}
    (he : scale (m * 2 ^ e) = e) :
    shiftToTargetExponent Format.binary64 m e .exact =
      (ExtendedMantissa.ofMantissaAndAccuracy m .exact, e) := by
  have htarget : Format.binary64.targetExponent (totalExponent m e) = e := by
    have hfloor := targetExponent_floor (Nat.cast_pos.mpr hm) (Eq.ge he)
    rwa [Nat.floor_natCast, he] at hfloor
  rw [shiftToTargetExponent, htarget, shiftToExponent, Int.sub_self]
  simp only [Int.toNat_zero, Nat.cast_zero, add_zero, bits_natCast, shiftRight_bits, pow_zero,
    div_one]

/-- A number with digits for one double is that double. -/
theorem nearest_of_scale {m : ℕ} (hm : 0 < m) {e : ℤ} (he : scale (m * 2 ^ e) = e) (s : Sign) :
    nearest s (m * 2 ^ e) = .finite s m e hm := by
  have hpow : (2 : ℚ) ^ e ≠ 0 := (zpow_pos two_pos e).ne'
  have hrounded : (bits (m * 2 ^ e / 2 ^ scale (m * 2 ^ e))).roundedMantissa = m := by
    rw [he, mul_div_cancel_right₀ _ hpow, ← bits_natCast]
    rfl
  rw [nearest]
  simp only [hrounded]
  simp only [he, shiftToTargetExponent_of_scale hm he]
  exact dif_neg hm.ne'

theorem roundedMantissa_le (m : ExtendedMantissa) : m.roundedMantissa ≤ m.mantissa + 1 := by
  obtain ⟨mantissa, roundBit, stickyBit⟩ := m
  have hparity := Nat.mod_lt mantissa two_pos
  cases roundBit <;> cases stickyBit <;>
    simp only [ExtendedMantissa.roundedMantissa, ExtendedMantissa.accuracy,
      Accuracy.roundToNearestEven] <;> omega

theorem div_scale_lt {v : ℚ} (hv : 0 < v) : v / 2 ^ scale v < 2 ^ 53 := by
  have hupper := (log_eq_iff hv).mp rfl
  have hscale : Int.log 2 v + 1 ≤ 53 + scale v := by
    rw [scale]
    omega
  rw [div_lt_iff₀ (zpow_pos two_pos _)]
  calc v < 2 ^ (Int.log 2 v + 1) := hupper.2
    _ ≤ 2 ^ (53 + scale v) := zpow_le_zpow_right₀ one_le_two hscale
    _ = 2 ^ 53 * 2 ^ scale v := by rw [zpow_add₀ two_ne_zero]; rfl

/-- Rounding may carry into one more place, not further. -/
theorem exponent_nearest_le {v : ℚ} (hv : 0 < v) {s s' : Sign} {m : ℕ} {e : ℤ} {hpos : 0 < m}
    (h : nearest s v = .finite s' m e hpos) : e ≤ scale v + 1 := by
  have hrounded : (bits (v / 2 ^ scale v)).roundedMantissa ≤ 2 ^ 53 := by
    have hfloor : ⌊v / 2 ^ scale v⌋₊ < 2 ^ 53 :=
      (Nat.floor_lt (div_pos hv (zpow_pos two_pos _)).le).mpr (by exact_mod_cast div_scale_lt hv)
    have hle := roundedMantissa_le (bits (v / 2 ^ scale v))
    change _ ≤ ⌊v / 2 ^ scale v⌋₊ + 1 at hle
    omega
  have hlog : (bits (v / 2 ^ scale v)).roundedMantissa.log2 < 54 := by
    by_cases hzero : (bits (v / 2 ^ scale v)).roundedMantissa = 0
    · rw [hzero, Nat.log2_zero]
      decide
    · rw [Nat.log2_lt hzero]
      omega
  rw [nearest] at h
  simp only [shiftToTargetExponent, shiftToExponent, targetExponent_eq, totalExponent] at h
  split at h
  · cases h
  · injection h with _ _ he
    have hlower : -1074 ≤ scale v := le_max_right _ _
    omega

/-! ## Arithmetic -/

theorem mul_finite {m₁ m₂ : ℕ} {e₁ e₂ : ℤ} {h₁ : 0 < m₁} {h₂ : 0 < m₂} (s₁ s₂ : Sign)
    (he : e₁ + e₂ ≤ scale (m₁ * 2 ^ e₁ * (m₂ * 2 ^ e₂))) :
    UnpackedFloat.mul Format.binary64 (.finite s₁ m₁ e₁ h₁) (.finite s₂ m₂ e₂ h₂) =
      nearest (s₁ * s₂) (m₁ * 2 ^ e₁ * (m₂ * 2 ^ e₂)) := by
  have hvalue : (m₁ * 2 ^ e₁ * (m₂ * 2 ^ e₂) : ℚ) = (m₁ * m₂ : ℕ) * 2 ^ (e₁ + e₂) := by
    rw [zpow_add₀ two_ne_zero]
    push_cast
    ring
  rw [hvalue] at he ⊢
  exact roundWithAccuracy_eq (Nat.cast_pos.mpr (Nat.mul_pos h₁ h₂)) (bits_natCast _) he _

theorem totalExponent_eq {m : ℕ} (hm : 0 < m) (e : ℤ) :
    totalExponent m e = Int.log 2 (m * 2 ^ e : ℚ) + 1 := by
  have hlog := log_of_one_le (q := m) (Nat.one_le_cast.mpr hm)
  rw [totalExponent, log_mul_zpow (Nat.cast_pos.mpr hm), hlog, Nat.floor_natCast]
  ring

theorem sub_le_log_div {v w : ℚ} (hv : 0 < v) (hw : 0 < w) :
    Int.log 2 v - Int.log 2 w - 1 ≤ Int.log 2 (v / w) := by
  have hlower := Int.zpow_log_le_self (b := 2) one_lt_two hv
  have hupper := Int.lt_zpow_succ_log_self (b := 2) one_lt_two w
  rw [← Int.zpow_le_iff_le_log one_lt_two (div_pos hv hw)]
  push_cast at hlower hupper ⊢
  rw [le_div_iff₀ hw]
  have hpow : (2 : ℚ) ^ (Int.log 2 v - Int.log 2 w - 1) * 2 ^ (Int.log 2 w + 1) =
      2 ^ Int.log 2 v := by
    rw [← zpow_add₀ two_ne_zero]
    congr 1
    ring
  calc (2 : ℚ) ^ (Int.log 2 v - Int.log 2 w - 1) * w
      ≤ 2 ^ (Int.log 2 v - Int.log 2 w - 1) * 2 ^ (Int.log 2 w + 1) :=
        mul_le_mul_of_nonneg_left hupper.le (zpow_pos two_pos _).le
    _ = 2 ^ Int.log 2 v := hpow
    _ ≤ v := hlower

theorem div_finite {m₁ m₂ : ℕ} {e₁ e₂ : ℤ} {h₁ : 0 < m₁} {h₂ : 0 < m₂} (s₁ s₂ : Sign) :
    UnpackedFloat.div Format.binary64 (.finite s₁ m₁ e₁ h₁) (.finite s₂ m₂ e₂ h₂) =
      nearest (s₁ / s₂) (m₁ * 2 ^ e₁ / (m₂ * 2 ^ e₂)) := by
  have hm₁ : (0 : ℚ) < m₁ := Nat.cast_pos.mpr h₁
  have hm₂ : (0 : ℚ) < m₂ := Nat.cast_pos.mpr h₂
  have hv : (0 : ℚ) < m₁ * 2 ^ e₁ := mul_pos hm₁ (zpow_pos two_pos e₁)
  have hw : (0 : ℚ) < m₂ * 2 ^ e₂ := mul_pos hm₂ (zpow_pos two_pos e₂)
  obtain ⟨target, htarget⟩ : ∃ t, min (e₁ - e₂) (Format.binary64.targetExponent
      (totalExponent m₁ e₁ - totalExponent m₂ e₂)) = t := ⟨_, rfl⟩
  have hbelow : target ≤ scale (m₁ * 2 ^ e₁ / (m₂ * 2 ^ e₂)) := by
    have hlog := sub_le_log_div hv hw
    rw [targetExponent_eq, totalExponent_eq h₁, totalExponent_eq h₂] at htarget
    rw [scale]
    omega
  have hamount : ((e₁ - e₂ - target).toNat : ℤ) = e₁ - e₂ - target :=
    Int.toNat_of_nonneg (by omega)
  have hvalue : (m₁ * 2 ^ e₁ / (m₂ * 2 ^ e₂) : ℚ) =
      (m₁ <<< (e₁ - e₂ - target).toNat : ℕ) / m₂ * 2 ^ target := by
    rw [Nat.shiftLeft_eq]
    push_cast
    rw [← zpow_natCast, hamount, zpow_sub₀ two_ne_zero, zpow_sub₀ two_ne_zero]
    field_simp
  rw [hvalue] at hbelow ⊢
  rw [UnpackedFloat.div, divCore, htarget]
  refine roundWithAccuracy_eq (div_pos (Nat.cast_pos.mpr ?_) hm₂) (bits_div _ h₂) hbelow _
  rw [Nat.shiftLeft_eq]
  positivity

theorem round_eq {m : ℕ} (hm : 0 < m) (e : ℤ) (s : Sign) :
    UnpackedFloat.round Format.binary64 s m e = nearest s (m * 2 ^ e) := by
  have htarget : Format.binary64.targetExponent (totalExponent m e) = scale (m * 2 ^ e) := by
    rw [targetExponent_eq, totalExponent_eq hm, scale]
    omega
  have hvalue : (m * 2 ^ e : ℚ) = (m <<< (e - scale (m * 2 ^ e)).toNat : ℕ) *
      2 ^ (e - ((e - scale (m * 2 ^ e)).toNat : ℤ)) := by
    rw [Nat.shiftLeft_eq, zpow_sub₀ two_ne_zero, zpow_natCast]
    push_cast
    field_simp
  rw [UnpackedFloat.round]
  simp only [htarget, decreaseExponent]
  conv_rhs => rw [hvalue]
  refine roundWithAccuracy_eq ?_ (bits_natCast _) ?_ _
  · rw [Nat.shiftLeft_eq]
    positivity
  · rw [← hvalue]
    omega

theorem ofNat_eq {m : ℕ} (hm : 0 < m) :
    UnpackedFloat.ofNat Format.binary64 m = nearest .positive m := by
  have hcompare : compare (m : ℤ) 0 = .gt := by
    rw [Int.compare_eq_gt]
    exact_mod_cast hm
  have hround : UnpackedFloat.ofNat Format.binary64 m =
      UnpackedFloat.round Format.binary64 .positive m 0 := by
    rw [UnpackedFloat.ofNat, UnpackedFloat.ofInt, UnpackedFloat.normalize, hcompare]
    rfl
  rw [hround, round_eq hm, zpow_zero, mul_one]

end Alerting.Double
