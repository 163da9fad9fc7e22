import Mathlib

/-!
# Doubles and their bits

The bits of a double are a sign, an exponent and the digits of a significand, and
two doubles that say the same are the same.
-/
namespace Alerting.Double
open Float.Model (Format)
open Float.Model.UnpackedFloat

/-! ## The parts of a word -/

theorem unpackSign_packComponents (s : Sign) (e : BitVec 11) (m : BitVec 52) :
    unpackSign (packComponents Format.binary64 s e m) = s.toBitVec := by
  change (s.toBitVec ++ e ++ m).extractLsb' 63 1 = s.toBitVec
  rw [BitVec.extractLsb'_append_eq_of_le (by decide),
    BitVec.extractLsb'_append_eq_of_le (by decide)]
  cases s <;> rfl

theorem ofBitVec_toBitVec (s : Sign) : Sign.ofBitVec s.toBitVec = s := by
  cases s <;> rfl

theorem toBitVec_ofBitVec (b : BitVec 1) : (Sign.ofBitVec b).toBitVec = b := by
  rcases BitVec.eq_zero_or_eq_one b with rfl | rfl <;> rfl

theorem packComponents_unpack (b : BitVec Format.binary64.numBits) :
    packComponents Format.binary64 (Sign.ofBitVec (unpackSign b)) (unpackExponent b)
      (unpackMantissa b) = b := by
  rw [packComponents, toBitVec_ofBitVec]
  change (b.extractLsb' 63 1 ++ b.extractLsb' 52 11) ++ b.extractLsb' 0 52 = b
  rw [BitVec.extractLsb'_append_extractLsb'_eq_extractLsb' (by decide),
    BitVec.extractLsb'_append_extractLsb'_eq_extractLsb' (by decide)]
  exact BitVec.extractLsb'_eq_self

/-- A word of three parts. -/
theorem exists_packComponents (b : BitVec Format.binary64.numBits) :
    ∃ (s : Sign) (e : BitVec 11) (m : BitVec 52), b = packComponents Format.binary64 s e m :=
  ⟨_, _, _, (packComponents_unpack b).symm⟩

theorem toNat_packComponents (s : Sign) (e : BitVec 11) (m : BitVec 52) :
    (packComponents Format.binary64 s e m).toNat =
      s.toBitVec.toNat * 2 ^ 63 + e.toNat * 2 ^ 52 + m.toNat := by
  rw [packComponents, BitVec.toNat_append, BitVec.toNat_append,
    ← Nat.shiftLeft_add_eq_or_of_lt e.isLt, ← Nat.shiftLeft_add_eq_or_of_lt m.isLt,
    Nat.shiftLeft_eq, Nat.shiftLeft_eq]
  omega

theorem toNat_implicit (m : BitVec 52) : (1#1 ++ m).toNat = 2 ^ 52 + m.toNat := by
  rw [BitVec.toNat_append, ← Nat.shiftLeft_add_eq_or_of_lt m.isLt]
  rfl

theorem eq_ones_iff (e : BitVec 11) : e = -1#_ ↔ e.toNat = 2047 := by
  rw [← BitVec.toNat_inj]
  rfl

/-! ## What a word says -/

variable (s : Sign)

theorem unpack_normal {e : BitVec 11} (h₀ : e ≠ 0#_) (h₁ : e ≠ -1#_) (m : BitVec 52) :
    unpack Format.binary64 (packComponents Format.binary64 s e m) =
      .finite s (2 ^ 52 + m.toNat) (e.toNat - 1075) (Nat.add_pos_left (Nat.two_pow_pos 52) _) := by
  simp only [unpack, unpackMantissa_packComponents, unpackExponent_packComponents,
    unpackSign_packComponents, ofBitVec_toBitVec, if_neg h₀, if_neg h₁, toNat_implicit]
  rfl

theorem unpack_subnormal {m : BitVec 52} (hm : m ≠ 0#_) :
    unpack Format.binary64 (packComponents Format.binary64 s 0#11 m) =
      .finite s m.toNat (-1074) (BitVec.toNat_pos_of_ne_zero hm) := by
  have h₁ : (0#11 : BitVec 11) ≠ -1#_ := by decide
  simp only [unpack, unpackMantissa_packComponents, unpackExponent_packComponents,
    unpackSign_packComponents, ofBitVec_toBitVec, if_neg h₁, if_pos, dif_neg hm]
  rfl

theorem unpack_zero :
    unpack Format.binary64 (packComponents Format.binary64 s 0#11 0#52) = .zero s := by
  cases s <;> rfl

theorem unpack_infinity :
    unpack Format.binary64 (packComponents Format.binary64 s (-1#11) 0#52) = .infinity s := by
  cases s <;> rfl

theorem unpack_notANumber {m : BitVec 52} (hm : m ≠ 0#_) :
    unpack Format.binary64 (packComponents Format.binary64 s (-1#11) m) = .notANumber := by
  simp only [unpack, unpackMantissa_packComponents, unpackExponent_packComponents,
    unpackSign_packComponents, if_pos, if_neg hm]

/-- The five kinds of words. -/
theorem unpack_cases (e : BitVec 11) (m : BitVec 52) :
    (e = -1#_ ∧ m = 0#_ ∧
      unpack Format.binary64 (packComponents Format.binary64 s e m) = .infinity s) ∨
    (e = -1#_ ∧ m ≠ 0#_ ∧
      unpack Format.binary64 (packComponents Format.binary64 s e m) = .notANumber) ∨
    (e = 0#_ ∧ m = 0#_ ∧
      unpack Format.binary64 (packComponents Format.binary64 s e m) = .zero s) ∨
    (e = 0#_ ∧ ∃ hpos : 0 < m.toNat,
      unpack Format.binary64 (packComponents Format.binary64 s e m) =
        .finite s m.toNat (-1074) hpos) ∨
    (0 < e.toNat ∧ e.toNat < 2047 ∧
      unpack Format.binary64 (packComponents Format.binary64 s e m) =
        .finite s (2 ^ 52 + m.toNat) (e.toNat - 1075)
          (Nat.add_pos_left (Nat.two_pow_pos 52) _)) := by
  by_cases h₁ : e = -1#_
  · subst h₁
    by_cases hm : m = 0#_
    · subst hm
      exact .inl ⟨rfl, rfl, unpack_infinity s⟩
    · exact .inr (.inl ⟨rfl, hm, unpack_notANumber s hm⟩)
  · by_cases h₀ : e = 0#_
    · subst h₀
      by_cases hm : m = 0#_
      · subst hm
        exact .inr (.inr (.inl ⟨rfl, rfl, unpack_zero s⟩))
      · exact .inr (.inr (.inr (.inl ⟨rfl, _, unpack_subnormal s hm⟩)))
    · have hle := e.isLt
      have hzero : e.toNat ≠ 0 := by
        intro h
        exact h₀ (BitVec.eq_of_toNat_eq h)
      have hones : e.toNat ≠ 2047 := by rwa [ne_eq, ← eq_ones_iff]
      exact .inr (.inr (.inr (.inr ⟨by omega, by omega, unpack_normal s h₀ h₁ m⟩)))

/-! ## Words of finite doubles -/

/-- The significands and exponents that finite doubles have. -/
structure Fits (m : ℕ) (e : ℤ) : Prop where
  small : m < 2 ^ 53
  lower : -1074 ≤ e
  upper : e ≤ 971
  full : 2 ^ 52 ≤ m ∨ e = -1074

theorem pack_finite_normal {m : ℕ} {e : ℤ} (h : Fits m e) (hm : 2 ^ 52 ≤ m) (hpos : 0 < m) :
    pack Format.binary64 (.finite s m e hpos) =
      packComponents Format.binary64 s (BitVec.ofNat 11 (e + 1075).toNat) (BitVec.ofNat 52 m) := by
  obtain ⟨hsmall, hlower, hupper, -⟩ := h
  have hlog : m.log2 + 1 = Format.binary64.mantissaBits := by
    rw [(Nat.log2_eq_iff hpos.ne').mpr ⟨hm, hsmall⟩]
    rfl
  have hbiased : e + Format.binary64.exponentBias + Format.binary64.mantissaBitsWithoutImplicit =
      e + 1075 := add_assoc e 1023 52
  rw [pack, hbiased, if_neg, if_pos hlog]
  change ¬2048 ≤ (e + 1075).toNat + 1
  omega

theorem pack_finite_subnormal {m : ℕ} (hm : m < 2 ^ 52) (hpos : 0 < m) :
    pack Format.binary64 (.finite s m (-1074) hpos) =
      packComponents Format.binary64 s 0#11 (BitVec.ofNat 52 m) := by
  have hlog : m.log2 + 1 ≠ Format.binary64.mantissaBits := by
    have hlt := (Nat.log2_lt hpos.ne').mpr hm
    change m.log2 + 1 ≠ 53
    omega
  rw [pack, if_neg (by decide), if_neg hlog]

/-- A significand and an exponent come back from their word. -/
theorem unpack_pack_finite {m : ℕ} {e : ℤ} (h : Fits m e) (hpos : 0 < m) :
    unpack Format.binary64 (pack Format.binary64 (.finite s m e hpos)) = .finite s m e hpos := by
  have hsmall := h.small
  by_cases hm : 2 ^ 52 ≤ m
  · have hlower := h.lower
    have hupper := h.upper
    have hexponent : (BitVec.ofNat 11 (e + 1075).toNat).toNat = (e + 1075).toNat := by
      rw [BitVec.toNat_ofNat]
      omega
    have h₀ : BitVec.ofNat 11 (e + 1075).toNat ≠ 0#_ := by
      rw [ne_eq, ← BitVec.toNat_inj, hexponent]
      change (e + 1075).toNat ≠ 0
      omega
    have h₁ : BitVec.ofNat 11 (e + 1075).toNat ≠ -1#_ := by
      rw [ne_eq, eq_ones_iff, hexponent]
      omega
    rw [pack_finite_normal s h hm, unpack_normal s h₀ h₁]
    congr 1
    · rw [BitVec.toNat_ofNat]
      omega
    · rw [hexponent]
      omega
  · obtain rfl : e = -1074 := h.full.resolve_left hm
    have hmantissa : (BitVec.ofNat 52 m).toNat = m := by
      rw [BitVec.toNat_ofNat]
      omega
    have h₀ : BitVec.ofNat 52 m ≠ 0#_ := by
      rw [ne_eq, ← BitVec.toNat_inj, hmantissa]
      exact hpos.ne'
    rw [pack_finite_subnormal s (not_le.mp hm), unpack_subnormal s h₀]
    congr 1

/-- What a word of a finite double says fits into a word. -/
theorem fits_of_unpack {b : BitVec Format.binary64.numBits} {m : ℕ} {e : ℤ} {hpos : 0 < m}
    (h : unpack Format.binary64 b = .finite s m e hpos) : Fits m e := by
  obtain ⟨s', e', m', rfl⟩ := exists_packComponents b
  have hlt := m'.isLt
  rcases unpack_cases s' e' m' with
    ⟨-, -, hw⟩ | ⟨-, -, hw⟩ | ⟨-, -, hw⟩ | ⟨-, _, hw⟩ | ⟨hlo, hhi, hw⟩
  all_goals rw [hw] at h
  all_goals cases h
  · exact ⟨by omega, le_rfl, by decide, .inr rfl⟩
  · exact ⟨by omega, by omega, by omega, .inl (by omega)⟩

/-! ## The word of what a word says -/

theorem valid_of_unpack {b : BitVec Format.binary64.numBits}
    (h : unpack Format.binary64 b ≠ .notANumber) : Format.binary64.Valid b := by
  obtain ⟨s, e, m, rfl⟩ := exists_packComponents b
  refine ⟨fun he hm => absurd ?_ h⟩
  rw [unpackExponent_packComponents] at he
  rw [unpackMantissa_packComponents] at hm
  rw [he]
  exact unpack_notANumber s hm

theorem pack_unpack {b : BitVec Format.binary64.numBits} (hb : Format.binary64.Valid b) :
    pack Format.binary64 (unpack Format.binary64 b) = b := by
  obtain ⟨s, e, m, rfl⟩ := exists_packComponents b
  rcases unpack_cases s e m with
    ⟨rfl, rfl, hw⟩ | ⟨rfl, hm, hw⟩ | ⟨rfl, rfl, hw⟩ | ⟨rfl, hpos, hw⟩ | ⟨hlo, hhi, hw⟩
  · rw [hw]
    rfl
  · have hnan := hb.eq_packedNaN (by simp) (by simpa using hm)
    rw [hw, hnan]
    rfl
  · rw [hw]
    rfl
  · rw [hw, pack_finite_subnormal s m.isLt, BitVec.ofNat_toNat, BitVec.setWidth_eq]
  · rw [hw, pack_finite_normal s (fits_of_unpack s hw) (by omega)]
    congr 1
    · rw [← BitVec.toNat_inj, BitVec.toNat_ofNat]
      omega
    · rw [← BitVec.toNat_inj, BitVec.toNat_ofNat]
      omega

end Alerting.Double
