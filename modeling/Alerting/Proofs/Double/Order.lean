import Alerting.Proofs.Double.Value

/-!
# The order of doubles

Doubles that are numbers compare as whole numbers do: the word of the magnitude grows with it, and
the sign of the double is its sign. So zeros have one place whatever their signs, and comparisons
with what is no number never hold.
-/
namespace Alerting.Double
open Float.Model (UnpackedFloat)
open Float.Model.UnpackedFloat (Sign)

def word (m : ℕ) (e : ℤ) : ℤ := (e + 1074) * 2 ^ 52 + m

/-- The place of what a double says among all numbers. -/
def place : UnpackedFloat → ℤ
  | .zero _ | .notANumber => 0
  | .finite s m e _ => s.apply (word m e)
  | .infinity s => s.apply (2047 * 2 ^ 52)

def level (x : Float) : ℤ := place (parts x)

theorem level_neg (x : Float) : level (-x) = -level x := by
  rw [level, level, parts_neg]
  rcases parts x with (_ | _) | _ | _ | ⟨_ | _, _, _, _⟩ <;>
    simp [UnpackedFloat.neg, place, Sign.apply]

theorem isNaN_iff {x : Float} : x.isNaN = true ↔ parts x = .notANumber := by
  have hparts : x.isNaN = (parts x).isNaN := rfl
  rw [hparts]
  cases parts x <;> simp [UnpackedFloat.isNaN]

theorem isNaN_eq_false_iff {x : Float} : x.isNaN = false ↔ parts x ≠ .notANumber := by
  rw [← Bool.not_eq_true, isNaN_iff]

theorem isNaN_of_isFinite {x : Float} (hx : x.isFinite = true) : x.isNaN = false := by
  rw [isNaN_eq_false_iff]
  rcases parts_of_isFinite hx with ⟨s, h⟩ | ⟨s, m, e, hpos, h⟩ <;> rw [h] <;> simp

/-! ## Comparisons of places -/

section
variable {m m' : ℕ} {e e' : ℤ} (h : Fits m e) (h' : Fits m' e')
include h

theorem word_lt : word m e < 2047 * 2 ^ 52 := by
  obtain ⟨hsmall, -, hupper, -⟩ := h
  unfold word
  omega

theorem word_pos (hpos : 0 < m) : 0 < word m e := by
  have hlower := h.lower
  unfold word
  omega

include h'

/-- A larger exponent makes a larger word, because its significand is full. -/
theorem word_lt_word (he : e < e') : word m e < word m' e' := by
  have hsmall := h.small
  have hlower := h.lower
  have hfull : 2 ^ 52 ≤ m' := h'.full.resolve_right (by omega)
  unfold word
  omega

theorem compare_word : (compare e e').then (compare m m') = compare (word m e) (word m' e') := by
  rcases lt_trichotomy e e' with hlt | rfl | hgt
  · rw [Int.compare_eq_lt.mpr hlt, Int.compare_eq_lt.mpr (word_lt_word h h' hlt)]
    rfl
  · rw [Int.compare_eq_eq.mpr rfl, Ordering.then]
    rcases lt_trichotomy m m' with hlt | rfl | hgt
    · rw [Nat.compare_eq_lt.mpr hlt, Int.compare_eq_lt.mpr]
      exact (add_lt_add_iff_left _).mpr (by exact_mod_cast hlt)
    · rw [Nat.compare_eq_eq.mpr rfl, Int.compare_eq_eq.mpr rfl]
    · rw [Nat.compare_eq_gt.mpr hgt, Int.compare_eq_gt.mpr]
      exact (add_lt_add_iff_left _).mpr (by exact_mod_cast hgt)
  · rw [Int.compare_eq_gt.mpr hgt, Int.compare_eq_gt.mpr (word_lt_word h' h hgt)]
    rfl

end

theorem place_lt {u : UnpackedFloat} (hu : Representable u) (hfinite : ∀ s, u ≠ .infinity s) :
    -(2047 * 2 ^ 52) < place u ∧ place u < 2047 * 2 ^ 52 := by
  cases u with
  | infinity s => exact absurd rfl (hfinite s)
  | finite s m e hpos =>
    have hword := word_pos hu hpos
    have hlt := word_lt hu
    cases s <;> simp only [place, Sign.apply] <;> omega
  | _ => simp [place]

theorem place_le {u : UnpackedFloat} (hu : Representable u) : place u ≤ 2047 * 2 ^ 52 := by
  cases u with
  | infinity s =>
    cases s with
    | negative => exact neg_le_self (by omega)
    | positive => exact le_rfl
  | _ => exact (place_lt hu fun _ => nofun).2.le

theorem level_le (x : Float) : level x ≤ 2047 * 2 ^ 52 := place_le (representable_parts x)

theorem neg_le_level (x : Float) : -(2047 * 2 ^ 52) ≤ level x := by
  have hle := level_le (-x)
  rw [level_neg] at hle
  exact neg_le.mp hle

theorem compare_neg (a b : ℤ) : compare (-a) (-b) = compare b a := by
  rcases lt_trichotomy a b with hlt | rfl | hgt
  · rw [Int.compare_eq_gt.mpr (neg_lt_neg hlt), Int.compare_eq_gt.mpr hlt]
  · rw [Int.compare_eq_eq.mpr rfl, Int.compare_eq_eq.mpr rfl]
  · rw [Int.compare_eq_lt.mpr (neg_lt_neg hgt), Int.compare_eq_lt.mpr hgt]

/-- What two doubles say, if both are numbers, compares as their places do. -/
theorem compare_eq {u v : UnpackedFloat} (hu : Representable u) (hv : Representable v)
    (hu' : u ≠ .notANumber) (hv' : v ≠ .notANumber) :
    u.compare v = some (compare (place u) (place v)) := by
  have hlt {a b : ℤ} (h : a < b) : some Ordering.lt = some (compare a b) :=
    congrArg some (Int.compare_eq_lt.mpr h).symm
  have hgt {a b : ℤ} (h : b < a) : some Ordering.gt = some (compare a b) :=
    congrArg some (Int.compare_eq_gt.mpr h).symm
  fun_cases UnpackedFloat.compare u v with
  | case1 => exact absurd rfl hu'
  | case2 => exact absurd rfl hv'
  | case3 s s' => cases s <;> cases s' <;> rfl
  -- An infinity beside a number that is none.
  | case4 _ _ h => exact hgt (place_lt hv h).2
  | case5 _ _ h => exact hlt (place_lt hv h).1
  | case6 _ _ h => exact hlt (place_lt hu h).2
  | case7 _ _ h => exact hgt (place_lt hu h).1
  | case8 m e hpos => exact hgt (word_pos hu hpos)
  | case9 m e hpos => exact hlt (neg_neg_of_pos (word_pos hu hpos))
  | case10 _ m e hpos => exact hlt (word_pos hv hpos)
  | case11 _ m e hpos => exact hgt (neg_neg_of_pos (word_pos hv hpos))
  | case12 => rfl
  | case13 m e hpos m' e' hpos' =>
    rw [compare_word hu hv, Int.compare_swap]
    exact congrArg some (compare_neg _ _).symm
  | case14 m e hpos m' e' hpos' =>
    exact hlt ((neg_neg_of_pos (word_pos hu hpos)).trans (word_pos hv hpos'))
  | case15 m e hpos m' e' hpos' =>
    exact hgt ((neg_neg_of_pos (word_pos hv hpos')).trans (word_pos hu hpos))
  | case16 m e hpos m' e' hpos' => exact congrArg some (compare_word hu hv)

/-! ## Comparisons of doubles -/

section
variable {x y : Float}

theorem compare_level (hx : x.isNaN = false) (hy : y.isNaN = false) :
    (parts x).compare (parts y) = some (compare (level x) (level y)) :=
  compare_eq (representable_parts x) (representable_parts y) (isNaN_eq_false_iff.mp hx)
    (isNaN_eq_false_iff.mp hy)

/-- What no number is compares to nothing. -/
theorem compare_of_isNaN (h : x.isNaN = true ∨ y.isNaN = true) :
    (parts x).compare (parts y) = none := by
  rw [isNaN_iff, isNaN_iff] at h
  rcases h with h | h
  · rw [h]
    rfl
  · rw [h]
    cases parts x <;> rfl

theorem compare_eq_some {o : Ordering} : (parts x).compare (parts y) = some o ↔
    x.isNaN = false ∧ y.isNaN = false ∧ compare (level x) (level y) = o := by
  cases hx : x.isNaN with
  | true => simp [compare_of_isNaN (.inl hx)]
  | false =>
    cases hy : y.isNaN with
    | true => simp [compare_of_isNaN (.inr hy)]
    | false => simp [compare_level hx hy]

theorem lt_iff : x < y ↔ x.isNaN = false ∧ y.isNaN = false ∧ level x < level y := by
  have hlt : x < y ↔ (parts x).compare (parts y) = some .lt := by
    change decide (((parts x).compare (parts y) == some Ordering.lt) = true) = true ↔ _
    rw [decide_eq_true_iff, beq_iff_eq]
  rw [hlt, compare_eq_some, Int.compare_eq_lt]

theorem beq_iff : (x == y) = true ↔ x.isNaN = false ∧ y.isNaN = false ∧ level x = level y := by
  have hbeq : (x == y) = ((parts x).compare (parts y) == some .eq) := rfl
  rw [hbeq, beq_iff_eq, compare_eq_some, Int.compare_eq_eq]

theorem le_iff : x ≤ y ↔ x.isNaN = false ∧ y.isNaN = false ∧ level x ≤ level y := by
  change decide (((parts x).compare (parts y)).any Ordering.isLE = true) = true ↔ _
  rw [decide_eq_true_iff, Option.any_eq_true]
  simp only [compare_eq_some]
  constructor
  · rintro ⟨o, ⟨hx, hy, rfl⟩, hle⟩
    exact ⟨hx, hy, Int.isLE_compare.mp hle⟩
  · rintro ⟨hx, hy, hle⟩
    exact ⟨_, ⟨hx, hy, rfl⟩, Int.isLE_compare.mpr hle⟩

/-- Of two opposite comparisons one holds exactly if both doubles are numbers. -/
theorem lt_or_le_eq (x y : Float) :
    (decide (x < y) || decide (y ≤ x)) = (!x.isNaN && !y.isNaN) := by
  rw [Bool.eq_iff_iff]
  simp only [Bool.or_eq_true, decide_eq_true_eq, Bool.and_eq_true, Bool.not_eq_true', lt_iff,
    le_iff]
  constructor
  · rintro (⟨hx, hy, -⟩ | ⟨hy, hx, -⟩) <;> exact ⟨hx, hy⟩
  · rintro ⟨hx, hy⟩
    exact (lt_or_ge (level x) (level y)).imp (⟨hx, hy, ·⟩) (⟨hy, hx, ·⟩)

theorem lt_and_le_eq (x y : Float) : (decide (x < y) && decide (y ≤ x)) = false := by
  rw [Bool.eq_false_iff]
  simp only [ne_eq, Bool.and_eq_true, decide_eq_true_eq, lt_iff, le_iff]
  rintro ⟨⟨-, -, hlt⟩, -, -, hle⟩
  exact hlt.not_ge hle

end

section
variable {x y z : Float}

theorem le_of_le_le (hxy : x ≤ y) (hyz : y ≤ z) : x ≤ z := by
  rw [le_iff] at *
  exact ⟨hxy.1, hyz.2.1, hxy.2.2.trans hyz.2.2⟩

theorem lt_of_lt_le (hxy : x < y) (hyz : y ≤ z) : x < z := by
  rw [lt_iff, le_iff] at *
  exact ⟨hxy.1, hyz.2.1, hxy.2.2.trans_le hyz.2.2⟩

theorem lt_of_le_lt (hxy : x ≤ y) (hyz : y < z) : x < z := by
  rw [lt_iff, le_iff] at *
  exact ⟨hxy.1, hyz.2.1, hxy.2.2.trans_lt hyz.2.2⟩

/-- Doubles that compare as equal are the same or zeros. -/
theorem eq_or_zero_of_beq (h : (x == y) = true) :
    x = y ∨ (x == 0.0) = true ∧ (y == 0.0) = true := by
  obtain ⟨hx, hy, hcase⟩ := Float.beq_iff_ne_nan_and_eq.mp h
  rcases hcase with heq | ⟨rfl, rfl⟩ | ⟨rfl, rfl⟩
  · exact .inl heq
  · exact .inr (by decide)
  · exact .inr (by decide)

end

/-! ## Places and bits -/

/-- The bits of a number are its sign and a word, which is its place up to the sign. -/
theorem exists_magnitude {bits : UInt64} (hbits : (Float.ofBits bits).isNaN = false) :
    ∃ (s : Sign) (w : ℕ), w < 2 ^ 63 ∧ bits.toNat = s.toBitVec.toNat * 2 ^ 63 + w ∧
      level (.ofBits bits) = s.apply w := by
  obtain ⟨s, e, m, hword, hparts⟩ := exists_word_ofBits bits
  have hsmall : e.toNat * 2 ^ 52 + m.toNat < 2 ^ 63 := by
    have he := e.isLt
    have hm := m.isLt
    omega
  refine ⟨s, e.toNat * 2 ^ 52 + m.toNat, hsmall, by rw [hword, add_assoc], ?_⟩
  rw [isNaN_eq_false_iff] at hbits
  rw [level]
  rcases unpack_cases s e m with
    ⟨rfl, rfl, hw⟩ | ⟨-, -, hw⟩ | ⟨rfl, rfl, hw⟩ | ⟨rfl, hpos, hw⟩ | ⟨hlo, hhi, hw⟩
  all_goals rw [hparts, hw]
  · rfl
  · exact absurd (hparts.trans hw) hbits
  · cases s <;> simp [place, Sign.apply]
  · simp [place, word]
  · simp only [place, word]
    congr 1
    push_cast
    ring

end Alerting.Double
