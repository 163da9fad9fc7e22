import Alerting.Decimal.Shortest
import Alerting.Proofs.Double.Bits
import Alerting.Proofs.Double.Nearest

/-!
# Doubles by what they stand for

Signs are taken off and put back, equal finite doubles are the same, and a double
is the nearest one to the number that it stands for.
-/
namespace Alerting.Double
open Decimal
open Float.Model (Format UnpackedFloat)
open Float.Model.UnpackedFloat (Sign packComponents)

/-- What a double says. -/
def parts (x : Float) : UnpackedFloat := x.toModel.unpack

def Representable : UnpackedFloat → Prop
  | .finite _ m e _ => Fits m e
  | .zero _ | .infinity _ | .notANumber => True

theorem representable_unpack (b : BitVec Format.binary64.numBits) :
    Representable (UnpackedFloat.unpack Format.binary64 b) := by
  cases h : UnpackedFloat.unpack Format.binary64 b with
  | finite s m e hpos => exact fits_of_unpack s h
  | _ => trivial

theorem representable_parts (x : Float) : Representable (parts x) := representable_unpack _

def ofParts (u : UnpackedFloat) : Float := .ofModel (.pack u)

theorem parts_ofParts {u : UnpackedFloat} (h : Representable u) :
    parts (ofParts u) = u := by
  cases u with
  | finite s m e hpos => exact unpack_pack_finite s h hpos
  | zero s => exact unpack_zero s
  | infinity s => exact unpack_infinity s
  | notANumber => rfl

theorem ofParts_parts (x : Float) : ofParts (parts x) = x := by
  obtain ⟨⟨bits, hvalid⟩⟩ := x
  have hpack := pack_unpack hvalid
  simp only [ofParts, parts, Float.Model.pack, Float.Model.unpack, hpack]

theorem eq_of_parts_eq {x y : Float} (h : parts x = parts y) : x = y := by
  rw [← ofParts_parts x, h, ofParts_parts]

/-! ## Signs -/

theorem parts_neg (x : Float) : parts (-x) = (parts x).neg := by
  have hneg : -x = ofParts (parts x).neg := rfl
  have hrep := representable_parts x
  rw [hneg, parts_ofParts]
  cases h : parts x <;> simp_all [Representable, UnpackedFloat.neg]

theorem parts_abs (x : Float) : parts x.abs = (parts x).abs := by
  have habs : x.abs = ofParts (parts x).abs := rfl
  have hrep := representable_parts x
  rw [habs, parts_ofParts]
  cases h : parts x <;> simp_all [Representable, UnpackedFloat.abs]

/-! ## The parts in the bits -/

theorem parts_ofBits (bits : UInt64) :
    parts (.ofBits bits) = UnpackedFloat.unpack Format.binary64 bits.toBitVec :=
  parts_ofParts (representable_unpack _)

/-- A word and what the double with these bits says. -/
theorem exists_word_ofBits (bits : UInt64) : ∃ (s : Sign) (e : BitVec 11) (m : BitVec 52),
    bits.toNat = s.toBitVec.toNat * 2 ^ 63 + e.toNat * 2 ^ 52 + m.toNat ∧
      parts (.ofBits bits) =
        UnpackedFloat.unpack Format.binary64 (packComponents Format.binary64 s e m) := by
  obtain ⟨s, e, m, hword⟩ := exists_packComponents bits.toBitVec
  refine ⟨s, e, m, ?_, ?_⟩
  · rw [← toNat_packComponents, ← hword]
    rfl
  · rw [parts_ofBits, hword]

theorem exists_word (x : Float) : ∃ (s : Sign) (e : BitVec 11) (m : BitVec 52),
    x.toBits.toNat = s.toBitVec.toNat * 2 ^ 63 + e.toNat * 2 ^ 52 + m.toNat ∧
      parts x = UnpackedFloat.unpack Format.binary64 (packComponents Format.binary64 s e m) := by
  have hword := exists_word_ofBits x.toBits
  rwa [Float.ofBits_toBits] at hword

/-- Only the bits of what is no number are lost. -/
theorem toBits_ofBits {bits : UInt64} (h : parts (.ofBits bits) ≠ .notANumber) :
    (Float.ofBits bits).toBits = bits := by
  rw [parts_ofBits] at h
  exact UInt64.toBitVec_inj.mp (pack_unpack (valid_of_unpack h))

section
variable {x : Float} {s : Sign} {e : BitVec 11} {m : BitVec 52}

theorem significand_eq
    (hbits : x.toBits.toNat = s.toBitVec.toNat * 2 ^ 63 + e.toNat * 2 ^ 52 + m.toNat) :
    significand x = if e.toNat = 0 then (m.toNat, -1074)
      else (m.toNat + 2 ^ 52, (e.toNat : ℤ) - 1075) := by
  have he := e.isLt
  have hm := m.isLt
  have hfield : x.toBits.toNat % 0x8000000000000000 / 0x10000000000000 = e.toNat := by
    rw [hbits]
    omega
  have hlow : x.toBits.toNat % 0x8000000000000000 % 0x10000000000000 = m.toNat := by
    rw [hbits]
    omega
  simp only [significand, hfield, hlow]
  rfl

theorem signBit_eq
    (hbits : x.toBits.toNat = s.toBitVec.toNat * 2 ^ 63 + e.toNat * 2 ^ 52 + m.toNat) :
    signBit x = true ↔ s = .negative := by
  have he := e.isLt
  have hm := m.isLt
  rw [signBit, decide_eq_true_iff, hbits]
  cases s with
  | negative =>
    have hsign : Sign.negative.toBitVec.toNat = 1 := rfl
    rw [hsign]
    exact iff_of_true (by omega) rfl
  | positive =>
    have hsign : Sign.positive.toBitVec.toNat = 0 := rfl
    rw [hsign]
    exact iff_of_false (by omega) (by simp)

end

/-- The bits of a finite double show what it says. -/
theorem bits_of_finite {x : Float} {s : Sign} {m : ℕ} {e : ℤ} {hpos : 0 < m}
    (hx : parts x = .finite s m e hpos) :
    significand x = (m, e) ∧ (signBit x = true ↔ s = .negative) := by
  obtain ⟨s', e', m', hbits, hparts⟩ := exists_word x
  rw [significand_eq hbits, signBit_eq hbits]
  rw [hparts] at hx
  rcases unpack_cases s' e' m' with
    ⟨-, -, hw⟩ | ⟨-, -, hw⟩ | ⟨-, -, hw⟩ | ⟨rfl, _, hw⟩ | ⟨hlo, -, hw⟩
  all_goals rw [hw] at hx
  all_goals cases hx
  · exact ⟨rfl, Iff.rfl⟩
  · rw [if_neg hlo.ne', Nat.add_comm]
    exact ⟨rfl, Iff.rfl⟩

theorem bits_of_zero {x : Float} {s : Sign} (hx : parts x = .zero s) :
    significand x = (0, -1074) ∧ (signBit x = true ↔ s = .negative) := by
  obtain ⟨s', e', m', hbits, hparts⟩ := exists_word x
  rw [significand_eq hbits, signBit_eq hbits]
  rw [hparts] at hx
  rcases unpack_cases s' e' m' with
    ⟨-, -, hw⟩ | ⟨-, -, hw⟩ | ⟨rfl, rfl, hw⟩ | ⟨-, _, hw⟩ | ⟨-, -, hw⟩
  all_goals rw [hw] at hx
  all_goals cases hx
  exact ⟨rfl, Iff.rfl⟩

/-! ## Finite doubles -/

theorem isFinite_eq (x : Float) : x.isFinite = (parts x).isFinite := rfl

/-- What a finite double says. -/
theorem parts_of_isFinite {x : Float} (hx : x.isFinite = true) :
    (∃ s, parts x = .zero s) ∨ ∃ s m e hpos, parts x = .finite s m e hpos := by
  rw [isFinite_eq] at hx
  cases h : parts x with
  | zero s => exact .inl ⟨s, rfl⟩
  | finite s m e hpos => exact .inr ⟨s, m, e, hpos, rfl⟩
  | infinity s =>
    rw [h] at hx
    cases hx
  | notANumber =>
    rw [h] at hx
    cases hx

theorem isFinite_neg (x : Float) : (-x).isFinite = x.isFinite := by
  rw [isFinite_eq, isFinite_eq, parts_neg]
  cases parts x <;> rfl

/-- A significand with an exponent that is not too large makes a finite double. -/
theorem isFinite_ofParts {s : Sign} {m : ℕ} {e : ℤ} {hpos : 0 < m} (he : e ≤ 971) :
    (ofParts (.finite s m e hpos)).isFinite = true := by
  have hword {e' : BitVec 11} {m' : BitVec 52} (h : e' ≠ -1#_) :
      (UnpackedFloat.unpack Format.binary64
        (packComponents Format.binary64 s e' m')).isFinite = true := by
    rcases unpack_cases s e' m' with
      ⟨rfl, -, -⟩ | ⟨rfl, -, -⟩ | ⟨-, -, hw⟩ | ⟨-, _, hw⟩ | ⟨-, -, hw⟩
    · exact absurd rfl h
    · exact absurd rfl h
    all_goals
      rw [hw]
      rfl
  change (UnpackedFloat.unpack Format.binary64
    (UnpackedFloat.pack Format.binary64 (.finite s m e hpos))).isFinite = true
  have hbiased : e + Format.binary64.exponentBias + Format.binary64.mantissaBitsWithoutImplicit =
      e + 1075 := add_assoc e 1023 52
  have hsmall : ¬2 ^ Format.binary64.exponentBits ≤ (e + 1075).toNat + 1 := by
    change ¬2048 ≤ (e + 1075).toNat + 1
    omega
  rw [UnpackedFloat.pack, hbiased, if_neg hsmall]
  split
  · apply hword
    rw [ne_eq, eq_ones_iff, BitVec.toNat_ofNat]
    omega
  · exact hword (by decide)

/-- A significand with an exponent that is too large makes an infinity. -/
theorem isInf_ofParts {s : Sign} {m : ℕ} {e : ℤ} {hpos : 0 < m} (he : 971 < e) :
    (ofParts (.finite s m e hpos)).isInf = true := by
  change (UnpackedFloat.unpack Format.binary64
    (UnpackedFloat.pack Format.binary64 (.finite s m e hpos))).isInf = true
  have hbiased : e + Format.binary64.exponentBias + Format.binary64.mantissaBitsWithoutImplicit =
      e + 1075 := add_assoc e 1023 52
  have hlarge : 2 ^ Format.binary64.exponentBits ≤ (e + 1075).toNat + 1 := by
    change 2048 ≤ (e + 1075).toNat + 1
    omega
  rw [UnpackedFloat.pack, hbiased, if_pos hlarge]
  cases s <;> rfl

theorem isInf_abs {x : Float} (hx : x.isFinite = true) : x.abs.isInf = false := by
  have hparts : x.abs.isInf = (parts x.abs).isInf := rfl
  rw [hparts, parts_abs]
  rcases parts_of_isFinite hx with ⟨s, h⟩ | ⟨s, m, e, hpos, h⟩
  · rw [h]
    rfl
  · rw [h]
    rfl

/-- The sign of a finite double and its magnitude are the double. -/
theorem signed_abs {x : Float} (hx : x.isFinite = true) :
    (if signBit x then -x.abs else x.abs) = x := by
  apply eq_of_parts_eq
  rcases parts_of_isFinite hx with ⟨s, h⟩ | ⟨s, m, e, hpos, h⟩
  · have hsign := (bits_of_zero h).2
    cases s with
    | negative => rw [if_pos (hsign.mpr rfl), parts_neg, parts_abs, h]; rfl
    | positive =>
      rw [if_neg (by simp [hsign]), parts_abs, h]
      rfl
  · have hsign := (bits_of_finite h).2
    cases s with
    | negative => rw [if_pos (hsign.mpr rfl), parts_neg, parts_abs, h]; rfl
    | positive =>
      rw [if_neg (by simp [hsign]), parts_abs, h]
      rfl

/-- Doubles that compare as equal are the same, unless they are zeros. -/
theorem eq_of_beq {x y : Float} {s : Sign} {m : ℕ} {e : ℤ} {hpos : 0 < m}
    (hy : parts y = .finite s m e hpos) (h : (x == y) = true) : x = y := by
  have hbeq : (x == y) = (UnpackedFloat.compare (parts x) (parts y) == some .eq) := rfl
  rw [hbeq, hy] at h
  apply eq_of_parts_eq
  rw [hy]
  cases hx : parts x with
  | finite s' m' e' hpos' =>
    rw [hx] at h
    cases s <;> cases s' <;>
      simp_all [UnpackedFloat.compare, Ordering.then_eq_eq, Ordering.swap_eq_eq]
  | zero s' =>
    rw [hx] at h
    cases s <;> simp_all [UnpackedFloat.compare]
  | infinity s' =>
    rw [hx] at h
    cases s' <;> simp_all [UnpackedFloat.compare]
  | notANumber =>
    rw [hx] at h
    simp_all [UnpackedFloat.compare]

/-! ## The number of a double -/

/-- The last place of a significand whose first places are taken. -/
theorem scale_of_full {m : ℕ} {e : ℤ} (hsmall : m < 2 ^ 53) (hlower : -1074 ≤ e)
    (hfull : 2 ^ 52 ≤ m ∨ e = -1074) (hpos : 0 < m) : scale (m * 2 ^ e) = e := by
  have hlog : (m.log2 : ℤ) ≤ 52 := by
    exact_mod_cast Nat.lt_succ_iff.mp ((Nat.log2_lt hpos.ne').mpr hsmall)
  rw [scale, log_mul_zpow (Nat.cast_pos.mpr hpos), log_of_one_le (Nat.one_le_cast.mpr hpos),
    Nat.floor_natCast]
  rcases hfull with hfull | rfl
  · have hge := (Nat.le_log2 hpos.ne').mpr hfull
    omega
  · omega

theorem scale_of_fits {m : ℕ} {e : ℤ} (h : Fits m e) (hpos : 0 < m) : scale (m * 2 ^ e) = e :=
  scale_of_full h.small h.lower h.full hpos

/-- A double is the one nearest to its number. -/
theorem ofParts_nearest {x : Float} {s : Sign} {m : ℕ} {e : ℤ} {hpos : 0 < m}
    (hx : parts x = .finite s m e hpos) : ofParts (nearest s (m * 2 ^ e)) = x := by
  have hfits : Fits m e := by
    have hrep := representable_parts x
    rwa [hx] at hrep
  rw [nearest_of_scale hpos (scale_of_fits hfits hpos), ← hx, ofParts_parts]

end Alerting.Double
