import Alerting.Proofs.Double.Rounding

/-!
# The numbers of sums and quotients

Finite doubles are added and divided as their numbers are and the result is rounded, unless it is
too large for a double. Doubles compare as their numbers do.
-/
namespace Alerting.Double
open Float.Model Float.Model.UnpackedFloat

def signed : Sign → ℚ → ℚ
  | .negative, v => -v
  | .positive, v => v

def number (x : Float) : ℚ :=
  match parts x with
  | .finite s m e _ => signed s (m * 2 ^ e)
  | _ => 0

theorem abs_signed (s : Sign) {v : ℚ} (hv : 0 ≤ v) : |signed s v| = v := by
  cases s
  · rw [signed, abs_neg, abs_of_nonneg hv]
  · rw [signed, abs_of_nonneg hv]

theorem signed_div (s t : Sign) (v w : ℚ) : signed (s / t) (v / w) = signed s v / signed t w := by
  cases s <;> cases t
  · exact (neg_div_neg_eq v w).symm
  · exact (neg_div w v).symm
  · exact (div_neg v).symm
  · rfl

theorem number_of_finite {x : Float} {s : Sign} {m : ℕ} {e : ℤ} {hpos : 0 < m}
    (h : parts x = .finite s m e hpos) : number x = signed s (m * 2 ^ e) := by
  rw [number, h]

theorem number_of_zero {x : Float} {s : Sign} (h : parts x = .zero s) : number x = 0 := by
  rw [number, h]

theorem onGrid_zero : OnGrid 0 := ⟨0, 0, by norm_num, by norm_num, by norm_num⟩

theorem onGrid_signed (s : Sign) {m : ℕ} {e : ℤ} (hm : m ≤ 2 ^ 53) (he : -1074 ≤ e) :
    OnGrid (signed s (m * 2 ^ e)) := by
  have hgrid : OnGrid (m * 2 ^ e) := ⟨m, e, by rw [abs_of_nonneg (by omega)]; omega, he, rfl⟩
  cases s with
  | negative => exact hgrid.neg
  | positive => exact hgrid

theorem onGrid_number (x : Float) : OnGrid (number x) := by
  cases h : parts x with
  | finite s m e hpos =>
    have hfits : Fits m e := fits_of_unpack s h
    rw [number_of_finite h]
    exact onGrid_signed s hfits.small.le hfits.lower
  | _ =>
    rw [number, h]
    exact onGrid_zero

theorem two_pow_mul {k : ℕ} {e : ℤ} (h : k + e = 1024) : (2 : ℚ) ^ k * 2 ^ e = 2 ^ 1024 := by
  rw [← zpow_natCast, ← zpow_add₀ two_ne_zero, h]
  rfl

theorem abs_number_lt (x : Float) : |number x| < 2 ^ 1024 := by
  cases h : parts x with
  | finite s m e hpos =>
    have hfits : Fits m e := fits_of_unpack s h
    rw [number_of_finite h, abs_signed s (by positivity),
      ← two_pow_mul (k := 53) (e := 971) rfl]
    have hsmall : (m : ℚ) < 2 ^ 53 := by exact_mod_cast hfits.small
    have hpow : (2 : ℚ) ^ e ≤ 2 ^ (971 : ℤ) := zpow_le_zpow_right₀ one_le_two hfits.upper
    exact mul_lt_mul hsmall hpow (zpow_pos two_pos e) (by positivity)
  | _ =>
    rw [number, h, abs_zero]
    positivity

/-! ## The nearest double -/

theorem whole_scale_le {v : ℚ} (hv : 0 < v) : whole (v / 2 ^ scale v) ≤ 2 ^ 53 := by
  refine whole_le (div_pos hv (zpow_pos two_pos _)).le ?_
  exact_mod_cast (div_scale_lt hv).le

/-- All places before the last one are taken, or the last place is the last of all. -/
theorem whole_scale_full {v : ℚ} (hv : 0 < v) :
    2 ^ 52 ≤ whole (v / 2 ^ scale v) ∨ scale v = -1074 := by
  rcases (neg_le_scale v).eq_or_lt with heq | hlt
  · exact .inr heq.symm
  · refine .inl (le_whole ((le_div_iff₀ (zpow_pos two_pos _)).mpr ?_))
    exact_mod_cast full_le hv hlt

/-- Digits that are not carried into one more place stay as they are. -/
theorem shift_small {m : ℕ} {e : ℤ} (hm : m < 2 ^ 53) (he : -1074 ≤ e)
    (hfull : 2 ^ 52 ≤ m ∨ e = -1074) :
    (shiftToTargetExponent Format.binary64 m e .exact).1.mantissa = m ∧
      (0 < m → (shiftToTargetExponent Format.binary64 m e .exact).2 = e) := by
  rcases Nat.eq_zero_or_pos m with rfl | hpos
  · refine ⟨?_, fun h => absurd h (lt_irrefl 0)⟩
    rw [shiftToTargetExponent, shiftToExponent, bits_natCast, shiftRight_bits, Nat.cast_zero,
      zero_div]
    exact Nat.floor_zero
  · rw [shiftToTargetExponent_of_scale hpos (scale_of_full hm he hfull hpos)]
    exact ⟨rfl, fun _ => rfl⟩

/-- Digits that are carried into one more place lose a zero at their end. -/
theorem shift_carried {e : ℤ} (he : -1074 ≤ e) :
    (shiftToTargetExponent Format.binary64 (2 ^ 53) e .exact).1.mantissa = 2 ^ 52 ∧
      (shiftToTargetExponent Format.binary64 (2 ^ 53) e .exact).2 = e + 1 := by
  have htarget : Format.binary64.targetExponent (totalExponent (2 ^ 53) e) = e + 1 := by
    rw [targetExponent_eq, totalExponent, Nat.log2_two_pow]
    omega
  have hamount : (e + 1 - e).toNat = 1 := by omega
  have hhalf : ((2 ^ 53 : ℕ) / 2 ^ 1 : ℚ) = (2 ^ 52 : ℕ) := by norm_num
  rw [shiftToTargetExponent, htarget, shiftToExponent, hamount, bits_natCast, shiftRight_bits,
    hhalf]
  exact ⟨Nat.floor_natCast _, rfl⟩

/-- The nearest double is zero or has the digits that the number is rounded to. -/
theorem nearest_cases {v : ℚ} (hv : 0 < v) (s : Sign) :
    roundedMagnitude v = 0 ∧ nearest s v = .zero s ∨
      ∃ (m : ℕ) (e : ℤ) (hpos : 0 < m), (m < 2 ^ 53 ∧ -1074 ≤ e ∧ (2 ^ 52 ≤ m ∨ e = -1074)) ∧
        nearest s v = .finite s m e hpos ∧ roundedMagnitude v = m * 2 ^ e := by
  have hlower := neg_le_scale v
  have hnearest : nearest s v =
      let carried := shiftToTargetExponent Format.binary64 (whole (v / 2 ^ scale v)) (scale v) .exact
      if h : carried.1.mantissa = 0 then .zero s
      else .finite s carried.1.mantissa carried.2 (Nat.pos_of_ne_zero h) := rfl
  rw [hnearest, roundedMagnitude]
  rcases (whole_scale_le hv).lt_or_eq with hsmall | hcarried
  · obtain ⟨hmantissa, hexponent⟩ := shift_small hsmall hlower (whole_scale_full hv)
    rcases Nat.eq_zero_or_pos (whole (v / 2 ^ scale v)) with hzero | hpos
    · left
      rw [hzero] at hmantissa ⊢
      exact ⟨by rw [Nat.cast_zero, zero_mul], dif_pos hmantissa⟩
    · right
      refine ⟨_, _, hpos, ⟨hsmall, hlower, whole_scale_full hv⟩, ?_, rfl⟩
      dsimp only
      rw [dif_neg (by rw [hmantissa]; exact hpos.ne')]
      congr 1
      exact hexponent hpos
  · obtain ⟨hmantissa, hexponent⟩ := shift_carried hlower
    right
    rw [hcarried]
    refine ⟨2 ^ 52, scale v + 1, by decide, ⟨by decide, by omega, .inl le_rfl⟩, ?_, ?_⟩
    · dsimp only
      rw [dif_neg (by rw [hmantissa]; decide)]
      congr 1
    · rw [zpow_add_one₀ two_ne_zero]
      push_cast
      ring

/-- `x` is what the number `q` is rounded to, and finite if that is not too large. -/
structure Rounds (x : Float) (q : ℚ) : Prop where
  finite_iff : x.isFinite = true ↔ |rounded q| < 2 ^ 1024
  number : x.isFinite = true → number x = rounded q

theorem rounds_of_finite {x : Float} {q : ℚ} (hx : x.isFinite = true) (h : number x = rounded q) :
    Rounds x q where
  finite_iff := iff_of_true hx (h ▸ abs_number_lt x)
  number _ := h

theorem rounds_of_large {x : Float} {q : ℚ} (hx : x.isFinite = false)
    (h : 2 ^ 1024 ≤ |rounded q|) : Rounds x q where
  finite_iff := iff_of_false (by simp [hx]) (not_lt.mpr h)
  number hfinite := by
    rw [hx] at hfinite
    cases hfinite

theorem rounds_self {x : Float} (hx : x.isFinite = true) : Rounds x (number x) :=
  rounds_of_finite hx (rounded_eq (onGrid_number x)).symm

theorem rounds_of_zero {x : Float} {s : Sign} (h : parts x = .zero s) : Rounds x 0 := by
  have hfinite : x.isFinite = true := by
    rw [isFinite_eq, h]
    rfl
  have hself := rounds_self hfinite
  rwa [number_of_zero h] at hself

theorem rounded_signed (s : Sign) {v : ℚ} (hv : 0 < v) :
    rounded (signed s v) = signed s (roundedMagnitude v) := by
  have hpos : rounded v = roundedMagnitude v := if_pos hv.le
  cases s with
  | negative => exact (rounded_neg v).trans (congrArg Neg.neg hpos)
  | positive => exact hpos

/-- What is not finite stays so as a double. -/
theorem isFinite_ofParts_eq_false {u : UnpackedFloat} (h : u.isFinite = false) :
    (ofParts u).isFinite = false := by
  cases u with
  | finite | zero => cases h
  | infinity s =>
    rw [isFinite_eq, parts_ofParts (u := .infinity s) trivial]
    rfl
  | notANumber =>
    rw [isFinite_eq, parts_ofParts (u := .notANumber) trivial]
    rfl

theorem isFinite_of_isInf {x : Float} (h : x.isInf = true) : x.isFinite = false := by
  have hinf : (parts x).isInf = true := h
  rw [isFinite_eq]
  cases hx : parts x with
  | infinity => rfl
  | _ =>
    rw [hx] at hinf
    cases hinf

theorem rounds_nearest (s : Sign) {v : ℚ} (hv : 0 < v) :
    Rounds (ofParts (nearest s v)) (signed s v) := by
  rcases nearest_cases hv s with ⟨hzero, hnearest⟩ | ⟨m, e, hpos, ⟨hm, he, hfull⟩, hnearest, hvalue⟩
  · have hparts : parts (ofParts (nearest s v)) = .zero s := by
      rw [hnearest]
      exact parts_ofParts (u := .zero s) trivial
    refine rounds_of_finite (by rw [isFinite_eq, hparts]; rfl) ?_
    rw [number_of_zero hparts, rounded_signed s hv, hzero]
    cases s <;> simp [signed]
  · by_cases hupper : e ≤ 971
    · have hparts : parts (ofParts (nearest s v)) = .finite s m e hpos := by
        rw [hnearest]
        exact parts_ofParts (u := .finite s m e hpos) ⟨hm, he, hupper, hfull⟩
      refine rounds_of_finite (by rw [isFinite_eq, hparts]; rfl) ?_
      rw [number_of_finite hparts, rounded_signed s hv, hvalue]
    · refine rounds_of_large ?_ ?_
      · rw [hnearest]
        exact isFinite_of_isInf (isInf_ofParts (not_le.mp hupper))
      · have hm' : (2 : ℚ) ^ 52 ≤ m := by exact_mod_cast hfull.resolve_right (by omega)
        have hpow : (2 : ℚ) ^ (972 : ℤ) ≤ 2 ^ e := zpow_le_zpow_right₀ one_le_two (by omega)
        rw [rounded_signed s hv, hvalue, abs_signed s (by positivity),
          ← two_pow_mul (k := 52) (e := 972) rfl]
        exact mul_le_mul hm' hpow (by positivity) (by positivity)

/-! ## Sums -/

section
variable {x y : Float}

theorem add_eq : x + y = ofParts (UnpackedFloat.add Format.binary64 (parts x) (parts y)) := rfl

theorem div_eq_ofParts :
    x / y = ofParts (UnpackedFloat.div Format.binary64 (parts x) (parts y)) := rfl

theorem add_of_not_isFinite {u : UnpackedFloat} (hu : u.isFinite = false) (v : UnpackedFloat) :
    (UnpackedFloat.add Format.binary64 u v).isFinite = false := by
  rcases u with s | _ | s | _
  · rcases v with t | _ | t | _
    · cases s <;> cases t <;> rfl
    all_goals rfl
  · cases v <;> rfl
  all_goals cases hu

theorem isFinite_add_left (h : (x + y).isFinite = true) : x.isFinite = true := by
  by_contra hx
  rw [Bool.not_eq_true, isFinite_eq] at hx
  rw [add_eq, isFinite_ofParts_eq_false (add_of_not_isFinite hx _)] at h
  cases h

/-- A sum of whole multiples of a power of two. -/
theorem normalize_eq (k : ℤ) (e : ℤ) :
    Rounds (ofParts (UnpackedFloat.normalize Format.binary64 k e .positive)) (k * 2 ^ e) := by
  have hpow : (0 : ℚ) < 2 ^ e := zpow_pos two_pos e
  rcases lt_trichotomy k 0 with hneg | rfl | hpos
  · have hcast : (((-k).toNat : ℤ) : ℚ) = -k := by
      rw [Int.toNat_of_nonneg (by omega)]
      push_cast
      rfl
    have hvalue : (k * 2 ^ e : ℚ) = signed .negative ((-k).toNat * 2 ^ e) := by
      rw [signed, ← Int.cast_natCast, hcast]
      ring
    have hnat : 0 < (-k).toNat := by omega
    rw [hvalue, UnpackedFloat.normalize, Int.compare_eq_lt.mpr hneg]
    dsimp only
    rw [round_eq hnat]
    exact rounds_nearest _ (mul_pos (Nat.cast_pos.mpr hnat) hpow)
  · rw [Int.cast_zero, zero_mul]
    exact rounds_of_zero (s := .positive) (parts_ofParts (u := .zero .positive) trivial)
  · have hcast : ((k.toNat : ℤ) : ℚ) = k := by rw [Int.toNat_of_nonneg hpos.le]
    have hvalue : (k * 2 ^ e : ℚ) = signed .positive (k.toNat * 2 ^ e) := by
      rw [signed, ← Int.cast_natCast, hcast]
    have hnat : 0 < k.toNat := by omega
    rw [hvalue, UnpackedFloat.normalize, Int.compare_eq_gt.mpr hpos]
    dsimp only
    rw [round_eq hnat]
    exact rounds_nearest _ (mul_pos (Nat.cast_pos.mpr hnat) hpow)

/-- A significand moved to a lower exponent stands for the same number. -/
theorem signed_decreased (s : Sign) (m : ℕ) {e e' : ℤ} (h : e' ≤ e) :
    signed s (m * 2 ^ e) = (s.apply (decreaseExponent m e e').1 : ℤ) * 2 ^ e' := by
  have hamount : ((e - e').toNat : ℤ) = e - e' := Int.toNat_of_nonneg (by omega)
  have hvalue : (m * 2 ^ e : ℚ) = ((decreaseExponent m e e').1 : ℕ) * 2 ^ e' := by
    rw [decreaseExponent, Nat.shiftLeft_eq]
    push_cast
    rw [← zpow_natCast, hamount, mul_assoc, ← zpow_add₀ two_ne_zero, sub_add_cancel]
  rw [hvalue]
  cases s
  · rw [signed, Sign.apply]
    push_cast
    ring
  · rfl

theorem rounds_add (hx : x.isFinite = true) (hy : y.isFinite = true) :
    Rounds (x + y) (number x + number y) := by
  rcases parts_of_isFinite hx with ⟨s, h⟩ | ⟨s, m, e, hpos, h⟩
  · rw [number_of_zero h, zero_add]
    rcases parts_of_isFinite hy with ⟨s', h'⟩ | ⟨s', m', e', hpos', h'⟩
    · obtain ⟨t, ht⟩ : ∃ t, UnpackedFloat.add Format.binary64 (.zero s) (.zero s') = .zero t := by
        cases s <;> cases s' <;> exact ⟨_, rfl⟩
      rw [number_of_zero h', add_eq, h, h', ht]
      exact rounds_of_zero (parts_ofParts (u := .zero t) trivial)
    · have hsum : x + y = y := by
        rw [add_eq, h, h', ← ofParts_parts y, h']
        rfl
      rw [hsum]
      exact rounds_self hy
  · rcases parts_of_isFinite hy with ⟨s', h'⟩ | ⟨s', m', e', hpos', h'⟩
    · have hsum : x + y = x := by
        rw [add_eq, h, h', ← ofParts_parts x, h]
        rfl
      rw [hsum, number_of_zero h', add_zero]
      exact rounds_self hx
    · rw [add_eq, h, h', number_of_finite h, number_of_finite h',
        signed_decreased s m (min_le_left e e'), signed_decreased s' m' (min_le_right e e'),
        ← add_mul, ← Int.cast_add]
      exact normalize_eq _ _

/-! ## Quotients -/

theorem div_of_not_isFinite {u : UnpackedFloat} (hu : u.isFinite = false) (v : UnpackedFloat) :
    (UnpackedFloat.div Format.binary64 u v).isFinite = false := by
  rcases u with s | _ | s | _
  · cases v <;> rfl
  · cases v <;> rfl
  all_goals cases hu

theorem isFinite_div_left (h : (x / y).isFinite = true) : x.isFinite = true := by
  by_contra hx
  rw [Bool.not_eq_true, isFinite_eq] at hx
  rw [div_eq_ofParts, isFinite_ofParts_eq_false (div_of_not_isFinite hx _)] at h
  cases h

theorem rounds_div (hx : x.isFinite = true) (hy : y.isFinite = true) (hzero : number y ≠ 0) :
    Rounds (x / y) (number x / number y) := by
  rcases parts_of_isFinite hy with ⟨s', h'⟩ | ⟨s', m', e', hpos', h'⟩
  · exact absurd (number_of_zero h') hzero
  · rcases parts_of_isFinite hx with ⟨s, h⟩ | ⟨s, m, e, hpos, h⟩
    · rw [number_of_zero h, zero_div, div_eq_ofParts, h, h']
      exact rounds_of_zero (parts_ofParts (u := .zero (s / s')) trivial)
    · rw [div_eq_ofParts, h, h', div_finite, number_of_finite h, number_of_finite h', ← signed_div]
      exact rounds_nearest _ (by positivity)

/-- A finite double over an infinity is zero. -/
theorem isFinite_div_of_isInf (hx : x.isFinite = true) (hy : y.isInf = true) :
    (x / y).isFinite = true := by
  have hinf : (parts y).isInf = true := hy
  cases h' : parts y with
  | infinity t =>
    obtain ⟨u, hu⟩ : ∃ u, UnpackedFloat.div Format.binary64 (parts x) (.infinity t) = .zero u := by
      rcases parts_of_isFinite hx with ⟨s, h⟩ | ⟨s, m, e, hpos, h⟩ <;>
        · rw [h]
          exact ⟨_, rfl⟩
    rw [div_eq_ofParts, h', hu, isFinite_eq, parts_ofParts (u := .zero u) trivial]
    rfl
  | _ =>
    rw [h'] at hinf
    cases hinf

end

/-! ## Comparisons -/

theorem number_neg (x : Float) : number (-x) = -number x := by
  rw [number, number, parts_neg]
  rcases parts x with _ | _ | _ | ⟨_ | _, _, _, _⟩ <;> simp [UnpackedFloat.neg, signed]

theorem number_of_level_eq_zero {x : Float} (h : level x = 0) : number x = 0 := by
  cases hx : parts x with
  | finite s m e hpos =>
    have hword := word_pos (fits_of_unpack s hx) hpos
    rw [level, hx] at h
    cases s <;> simp only [place, Sign.apply] at h <;> omega
  | _ => rw [number, hx]

/-- A larger word is that of a larger magnitude. -/
theorem mul_zpow_lt {m m' : ℕ} {e e' : ℤ} (h : Fits m e) (h' : Fits m' e')
    (hword : word m e < word m' e') : (m * 2 ^ e : ℚ) < m' * 2 ^ e' := by
  rcases lt_trichotomy e e' with hlt | rfl | hgt
  · have hsmall : (m : ℚ) < 2 ^ 53 := by exact_mod_cast h.small
    have hlower := h.lower
    have hfull : (2 : ℚ) ^ 52 ≤ m' := by exact_mod_cast h'.full.resolve_right (by omega)
    calc (m * 2 ^ e : ℚ) < 2 ^ 53 * 2 ^ e := mul_lt_mul_of_pos_right hsmall (zpow_pos two_pos e)
      _ = 2 ^ 52 * 2 ^ (e + 1) := by rw [zpow_add_one₀ two_ne_zero]; ring
      _ ≤ 2 ^ 52 * 2 ^ e' :=
          mul_le_mul_of_nonneg_left (zpow_le_zpow_right₀ one_le_two (by omega)) (by positivity)
      _ ≤ m' * 2 ^ e' := mul_le_mul_of_nonneg_right hfull (zpow_pos two_pos e').le
  · have hm : m < m' := by
      unfold word at hword
      omega
    exact mul_lt_mul_of_pos_right (Nat.cast_lt.mpr hm) (zpow_pos two_pos e)
  · exact absurd (word_lt_word h' h hgt) hword.not_gt

theorem exists_of_level_pos {x : Float} (hx : x.isFinite = true) (h : 0 < level x) :
    ∃ m e, Fits m e ∧ 0 < m ∧ number x = m * 2 ^ e ∧ level x = word m e := by
  rcases parts_of_isFinite hx with ⟨s, hs⟩ | ⟨s, m, e, hpos, hs⟩
  · rw [level, hs] at h
    exact absurd h (lt_irrefl 0)
  · have hfits : Fits m e := fits_of_unpack s hs
    have hword := word_pos hfits hpos
    cases s with
    | negative =>
      rw [level, hs] at h
      exact absurd (neg_pos.mp h) hword.not_gt
    | positive => exact ⟨m, e, hfits, hpos, number_of_finite hs, by rw [level, hs]; rfl⟩

theorem number_pos {x : Float} (hx : x.isFinite = true) (h : 0 < level x) : 0 < number x := by
  obtain ⟨m, e, -, hpos, hnumber, -⟩ := exists_of_level_pos hx h
  rw [hnumber]
  exact mul_pos (Nat.cast_pos.mpr hpos) (zpow_pos two_pos e)

section
variable {x y : Float} (hx : x.isFinite = true) (hy : y.isFinite = true)
include hx hy

theorem number_lt_of_nonneg (hzero : 0 ≤ level x) (h : level x < level y) :
    number x < number y := by
  rcases hzero.eq_or_lt with hzero | hpos
  · rw [number_of_level_eq_zero hzero.symm]
    exact number_pos hy (hzero.trans_lt h)
  · obtain ⟨m, e, hfits, -, hnumber, hword⟩ := exists_of_level_pos hx hpos
    obtain ⟨m', e', hfits', -, hnumber', hword'⟩ := exists_of_level_pos hy (hpos.trans h)
    rw [hnumber, hnumber']
    rw [hword, hword'] at h
    exact mul_zpow_lt hfits hfits' h

theorem number_lt_number (h : level x < level y) : number x < number y := by
  have hx' : (-x).isFinite = true := (isFinite_neg x).trans hx
  have hy' : (-y).isFinite = true := (isFinite_neg y).trans hy
  rcases le_or_gt 0 (level x) with hnonneg | hneg
  · exact number_lt_of_nonneg hx hy hnonneg h
  · rcases le_or_gt (level y) 0 with hnonpos | hpos
    · -- Both are on the same side of zero, so their negations are on the other one.
      have hlt : number (-y) < number (-x) :=
        number_lt_of_nonneg hy' hx' (by rw [level_neg]; omega) (by rw [level_neg, level_neg]; omega)
      rwa [number_neg, number_neg, neg_lt_neg_iff] at hlt
    · have hpos' : 0 < number (-x) := number_pos hx' (by rw [level_neg]; omega)
      rw [number_neg, neg_pos] at hpos'
      exact hpos'.trans (number_pos hy hpos)

/-- Finite doubles compare as their numbers do. -/
theorem le_iff_number_le : x ≤ y ↔ number x ≤ number y := by
  rw [le_iff]
  constructor
  · rintro ⟨hxn, hyn, hlevel⟩
    rcases hlevel.lt_or_eq with hlt | heq
    · exact (number_lt_number hx hy hlt).le
    · rcases eq_or_zero_of_beq (beq_iff.mpr ⟨hxn, hyn, heq⟩) with rfl | ⟨hzero, hzero'⟩
      · exact le_rfl
      · rw [number_of_level_eq_zero (beq_iff.mp hzero).2.2,
          number_of_level_eq_zero (beq_iff.mp hzero').2.2]
  · intro h
    refine ⟨isNaN_of_isFinite hx, isNaN_of_isFinite hy, not_lt.mp fun hlt => ?_⟩
    exact absurd (number_lt_number hy hx hlt) h.not_gt

end

/-! ## Means -/

theorem isFinite_or_isInf_nearest (s : Sign) {v : ℚ} (hv : 0 < v) :
    (ofParts (nearest s v)).isFinite = true ∨ (ofParts (nearest s v)).isInf = true := by
  rcases nearest_cases hv s with ⟨-, hnearest⟩ | ⟨m, e, hpos, -, hnearest, -⟩
  · left
    rw [hnearest, isFinite_eq, parts_ofParts (u := .zero s) trivial]
    rfl
  · rw [hnearest]
    exact (le_or_gt e 971).imp isFinite_ofParts isInf_ofParts

theorem onGrid_one : OnGrid 1 := ⟨1, 0, by norm_num, by norm_num, by norm_num⟩

/-- Finite doubles stay finite when they are divided by a count. -/
theorem isFinite_div_ofNat {x : Float} (hx : x.isFinite = true) {n : ℕ} (hn : 0 < n) :
    (x / Float.ofNat n).isFinite = true := by
  have hcount : (0 : ℚ) < n := Nat.cast_pos.mpr hn
  have hnearest : Float.ofNat n = ofParts (nearest .positive n) := by
    have hread := ofScientific_eq hn (e := 0) (by decide) (by omega)
    rwa [zpow_zero, mul_one] at hread
  rw [hnearest]
  rcases isFinite_or_isInf_nearest .positive hcount with hfinite | hinf
  · have hone : 1 ≤ number (ofParts (nearest .positive n)) := by
      rw [(rounds_nearest .positive hcount).number hfinite]
      exact le_rounded onGrid_one (Nat.one_le_cast.mpr hn)
    have hpos := zero_lt_one.trans_le hone
    rw [(rounds_div hx hfinite hpos.ne').finite_iff]
    have hgrid : OnGrid |number x| := by
      rcases abs_choice (number x) with habs | habs <;> rw [habs]
      · exact onGrid_number x
      · exact (onGrid_number x).neg
    refine (abs_rounded_le hgrid ?_).trans_lt (abs_number_lt x)
    rw [abs_div, abs_of_pos hpos]
    exact div_le_self (abs_nonneg _) hone
  · exact isFinite_div_of_isInf hx hinf

/-- Half a finite sum lies between the two doubles. -/
theorem half_add {x y : Float} (hx : x.isFinite = true) (hy : y.isFinite = true)
    (hle : number x ≤ number y) (hsum : (x + y).isFinite = true) :
    ((x + y) / 2.0).isFinite = true ∧ number x ≤ number ((x + y) / 2.0) ∧
      number ((x + y) / 2.0) ≤ number y := by
  have htwo : number 2.0 = 2 := by
    have hparts : parts 2.0 = .finite .positive (2 ^ 52) (-51) (by decide) := rfl
    rw [number_of_finite hparts, signed]
    norm_num
  -- Twice a double is on the grid as well, so that the sum is not rounded past it.
  have hnumber := (rounds_add hx hy).number hsum
  have hlower : 2 * number x ≤ number (x + y) := by
    rw [hnumber]
    exact le_rounded (onGrid_number x).two_mul (by linarith)
  have hupper : number (x + y) ≤ 2 * number y := by
    rw [hnumber]
    exact rounded_le (onGrid_number y).two_mul (by linarith)
  have hhalf := rounds_div hsum (y := 2.0) rfl (by rw [htwo]; norm_num)
  rw [htwo] at hhalf
  have hlower' := le_rounded (onGrid_number x) (q := number (x + y) / 2) (by linarith)
  have hupper' := rounded_le (onGrid_number y) (q := number (x + y) / 2) (by linarith)
  have hfinite : ((x + y) / 2.0).isFinite = true := by
    rw [hhalf.finite_iff, abs_lt]
    exact ⟨(abs_lt.mp (abs_number_lt x)).1.trans_le hlower',
      hupper'.trans_lt (abs_lt.mp (abs_number_lt y)).2⟩
  rw [hhalf.number hfinite]
  exact ⟨hfinite, hlower', hupper'⟩

end Alerting.Double
