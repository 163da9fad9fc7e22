import Alerting.Proofs.Double.Arithmetic
import Alerting.Proofs.Reducer.Attained

/-!
# Averages of finite values

The average of finite values is finite exactly if no sum on the way to their total is too large for
a double, and the median exactly if the sum of the two values in the middle is not. A finite median
lies between the extremes. Sums of few enough values that are small enough are never too large.
-/
namespace Alerting.Reducer
open Double
open Float.Model (UnpackedFloat)
open Float.Model.UnpackedFloat (Sign)

/-! ## Totals -/

theorem isFinite_of_foldl_add {xs : List Float} {x : Float}
    (h : (xs.foldl (· + ·) x).isFinite = true) : x.isFinite = true := by
  induction xs generalizing x with
  | nil => exact h
  | cons y xs ih => exact isFinite_add_left (ih h)

/-- A total is finite exactly if no sum on the way to it is too large. -/
theorem isFinite_total_iff (xs : List Float) :
    (total xs).isFinite = true ↔ ∀ k, (total (xs.take k)).isFinite = true := by
  constructor
  · intro h k
    rw [total, ← List.take_append_drop k xs, List.foldl_append] at h
    exact isFinite_of_foldl_add h
  · intro h
    have hall := h xs.length
    rwa [List.take_length] at hall

/-- Sums of values up to a power of two grow no further than the count of the values allows. -/
theorem foldl_add_bounded {j : ℤ} (hj : -1074 ≤ j) {xs : List Float}
    (hfinite : ∀ x ∈ xs, x.isFinite = true) (hbound : ∀ x ∈ xs, |number x| ≤ 2 ^ j) {start : Float}
    {i : ℕ} (hstart : start.isFinite = true ∧ |number start| ≤ i * 2 ^ j)
    (hcount : i + xs.length ≤ 2 ^ 53) (hlimit : ((i + xs.length : ℕ) * 2 ^ j : ℚ) < 2 ^ 1024) :
    (xs.foldl (· + ·) start).isFinite = true := by
  induction xs generalizing start i with
  | nil => exact hstart.1
  | cons x xs ih =>
    have hx := hfinite x List.mem_cons_self
    have hsum := rounds_add hstart.1 hx
    have hlength : i + (x :: xs).length = i + 1 + xs.length := by
      rw [List.length_cons]
      omega
    rw [hlength] at hcount hlimit
    have hpow : (0 : ℚ) < 2 ^ j := zpow_pos two_pos j
    have hgrid : OnGrid ((i + 1 : ℕ) * 2 ^ j) :=
      ⟨(i + 1 : ℕ), j, by rw [abs_of_nonneg (Int.natCast_nonneg _)]; omega, hj, rfl⟩
    have hle : |number start + number x| ≤ (i + 1 : ℕ) * 2 ^ j := by
      have hnext := hbound x List.mem_cons_self
      have htriangle := abs_add_le (number start) (number x)
      push_cast
      linarith [hstart.2]
    have hrounded := abs_rounded_le hgrid hle
    have hsmall : ((i + 1 : ℕ) * 2 ^ j : ℚ) < 2 ^ 1024 := by
      refine lt_of_le_of_lt (mul_le_mul_of_nonneg_right ?_ hpow.le) hlimit
      exact Nat.cast_le.mpr (by omega)
    have hnext : (start + x).isFinite = true := hsum.finite_iff.mpr (hrounded.trans_lt hsmall)
    refine ih (fun y hy => hfinite y (List.mem_cons_of_mem x hy))
      (fun y hy => hbound y (List.mem_cons_of_mem x hy)) ⟨hnext, ?_⟩ hcount hlimit
    rw [hsum.number hnext]
    exact hrounded

/-! ## The two values in the middle -/

/-- Whatever stands in the middle of the values has a finite sum. -/
def MiddleFits (xs : List Binary64) : Prop :=
  xs.length % 2 = 0 → ∀ x y, (ordered xs)[xs.length / 2 - 1]? = some x →
    (ordered xs)[xs.length / 2]? = some y → (x.toFloat + y.toFloat).isFinite = true

theorem mem_of_ordered {xs : List Binary64} {k : ℕ} {x : Binary64}
    (h : (ordered xs)[k]? = some x) : x ∈ xs :=
  (ordered_perm xs).mem_iff.mp (List.mem_of_getElem? h)

section
variable {xs : List Binary64} (hfinite : ∀ x ∈ xs, x.toFloat.isFinite = true)
include hfinite

theorem isFinite_of_ordered {k : ℕ} {x : Binary64} (h : (ordered xs)[k]? = some x) :
    x.toFloat.isFinite = true :=
  hfinite x (mem_of_ordered h)

theorem number_le_of_ordered {k l : ℕ} (hkl : k < l) {x y : Binary64}
    (hx : (ordered xs)[k]? = some x) (hy : (ordered xs)[l]? = some y) :
    number x.toFloat ≤ number y.toFloat := by
  have hxf := isFinite_of_ordered hfinite hx
  have hyf := isFinite_of_ordered hfinite hy
  obtain ⟨hk, rfl⟩ := List.getElem?_eq_some_iff.mp hx
  obtain ⟨hl, rfl⟩ := List.getElem?_eq_some_iff.mp hy
  have hrank := List.pairwise_iff_getElem.mp (pairwise_ordered xs) k l hk hl hkl
  have hxn := isNaN_of_isFinite hxf
  have hyn := isNaN_of_isFinite hyf
  exact (le_iff_number_le hxf hyf).mp
    (le_iff.mpr ⟨hxn, hyn, Binary64.level_le_of_rank_le hxn hyn hrank⟩)

/-- The median is finite exactly if the sum of the values in the middle is. Then it lies between
two of the values. -/
theorem middle_between (hne : xs ≠ []) :
    ((middle xs).isFinite = true ↔ MiddleFits xs) ∧ ((middle xs).isFinite = true →
      ∃ x ∈ xs, ∃ y ∈ xs, number x.toFloat ≤ number (middle xs) ∧
        number (middle xs) ≤ number y.toFloat) := by
  rcases Nat.mod_two_eq_zero_or_one xs.length with heven | hodd
  · obtain ⟨hhalf, x, y, hx, hy, hmiddle⟩ := middle_of_even heven hne
    have hxf := isFinite_of_ordered hfinite hx
    have hyf := isFinite_of_ordered hfinite hy
    have hle := number_le_of_ordered hfinite (by omega) hx hy
    rw [hmiddle]
    constructor
    · constructor
      · intro h _ x' y' hx' hy'
        obtain rfl := Option.some.inj (hx.symm.trans hx')
        obtain rfl := Option.some.inj (hy.symm.trans hy')
        exact isFinite_div_left h
      · intro h
        exact (half_add hxf hyf hle (h heven x y hx hy)).1
    · intro h
      obtain ⟨-, hlower, hupper⟩ := half_add hxf hyf hle (isFinite_div_left h)
      exact ⟨x, mem_of_ordered hx, y, mem_of_ordered hy, hlower, hupper⟩
  · obtain ⟨x, hx, hmiddle⟩ := middle_of_odd hodd
    have hmem := mem_of_ordered hx
    rw [hmiddle]
    refine ⟨iff_of_true (hfinite x hmem) fun heven => ?_, fun _ => ?_⟩
    · rw [hodd] at heven
      cases heven
    · exact ⟨x, hmem, x, hmem, le_rfl, le_rfl⟩

end

/-- What lies between finite doubles is finite. -/
theorem isFinite_of_le_of_le {x y z : Float} (hx : x.isFinite = true) (hz : z.isFinite = true)
    (hxy : x ≤ y) (hyz : y ≤ z) : y.isFinite = true := by
  obtain ⟨-, hyn, hlower⟩ := le_iff.mp hxy
  obtain ⟨-, -, hupper⟩ := le_iff.mp hyz
  have hplace {w : Float} (hw : w.isFinite = true) :
      -(2047 * 2 ^ 52) < level w ∧ level w < 2047 * 2 ^ 52 := by
    refine place_lt (representable_parts w) fun s hs => ?_
    rw [isFinite_eq, hs] at hw
    cases hw
  have hleast := (hplace hx).1
  have hmost := (hplace hz).2
  rw [isFinite_eq]
  cases hy : parts y with
  | finite | zero => rfl
  | notANumber => exact absurd hy (isNaN_eq_false_iff.mp hyn)
  | infinity s =>
    have hlevel : level y = s.apply (2047 * 2 ^ 52) := by
      rw [level, hy]
      rfl
    rw [hlevel] at hlower hupper
    cases s <;> simp only [Sign.apply] at hlower hupper <;> omega

/-! ## Series -/

theorem avg_reduce {s : Series} (h : s.doubles ≠ []) :
    avg.reduce s = some (total s.values / Float.ofNat s.values.length) := by
  obtain ⟨first, rest, hdoubles⟩ := List.exists_cons_of_ne_nil h
  rw [reduce, Series.values, hdoubles]
  rfl

/-- An extreme of finite values is finite. -/
theorem IsExtreme.isFinite {r : Float → Float → Prop} {xs : List Float} {m : Float}
    (h : IsExtreme r xs m) (hfinite : ∀ x ∈ xs, x.isFinite = true) : m.isFinite = true := by
  cases hzero : m == 0.0 with
  | false => exact hfinite m (h.mem hzero)
  | true =>
    have heq := beq_iff.mp hzero
    have hle : (0.0 : Float) ≤ m := le_iff.mpr ⟨heq.2.1, heq.1, heq.2.2.ge⟩
    exact isFinite_of_le_of_le rfl rfl hle (le_iff.mpr ⟨heq.1, heq.2.1, heq.2.2.le⟩)

/-- At most two to the `k` finite values, each of a magnitude of at most two to the `1023 - k`. -/
structure Moderate (k : ℕ) (xs : List Float) : Prop where
  precise : k ≤ 53
  count : xs.length ≤ 2 ^ k
  magnitude : ∀ x ∈ xs, |number x| ≤ 2 ^ (1023 - k : ℤ)

section
variable {k : ℕ}

theorem Moderate.isFinite_total {xs : List Float} (h : Moderate k xs)
    (hfinite : ∀ x ∈ xs, x.isFinite = true) : (total xs).isFinite = true := by
  have hk := h.precise
  have hcount : xs.length ≤ 2 ^ 53 := h.count.trans (Nat.pow_le_pow_right two_pos h.precise)
  have hzero : number (-0.0) = 0 := number_of_zero (s := .negative) rfl
  refine foldl_add_bounded (i := 0) (by omega) hfinite h.magnitude ⟨rfl, ?_⟩ ?_ ?_
  · rw [hzero]
    simp
  · omega
  · have hpow : (2 : ℚ) ^ k * 2 ^ (1023 - k : ℤ) = 2 ^ 1023 := by
      rw [← zpow_natCast, ← zpow_add₀ two_ne_zero, add_sub_cancel]
      rfl
    rw [Nat.zero_add]
    calc (xs.length * 2 ^ (1023 - k : ℤ) : ℚ) ≤ 2 ^ k * 2 ^ (1023 - k : ℤ) :=
          mul_le_mul_of_nonneg_right (by exact_mod_cast h.count) (zpow_pos two_pos _).le
      _ = 2 ^ 1023 := hpow
      _ < 2 ^ 1024 := pow_lt_pow_right₀ one_lt_two (by decide)

theorem Moderate.middleFits {xs : List Binary64} (h : Moderate k (xs.map Binary64.toFloat))
    (hfinite : ∀ x ∈ xs, x.toFloat.isFinite = true) (hne : xs ≠ []) : MiddleFits xs := by
  intro heven x y hx hy
  have hk := h.precise
  have hpos : 0 < k := by
    by_contra hzero
    have hcount := h.count
    rw [List.length_map] at hcount
    have hlength := List.length_pos_iff.mpr hne
    obtain rfl : k = 0 := by omega
    omega
  have hgrid : OnGrid (2 ^ (1023 - k : ℤ)) := ⟨1, 1023 - k, by norm_num, by omega, by simp⟩
  have hbound {z : Binary64} {l : ℕ} (hz : (ordered xs)[l]? = some z) :
      |number z.toFloat| ≤ 2 ^ (1023 - k : ℤ) :=
    h.magnitude z.toFloat (List.mem_map_of_mem (mem_of_ordered hz))
  have hsum : |number x.toFloat + number y.toFloat| ≤ 2 * 2 ^ (1023 - k : ℤ) := by
    have htriangle := abs_add_le (number x.toFloat) (number y.toFloat)
    linarith [hbound hx, hbound hy]
  have hsmall : (2 * 2 ^ (1023 - k : ℤ) : ℚ) < 2 ^ 1024 := by
    rw [← zpow_one_add₀ two_ne_zero, ← zpow_natCast]
    exact zpow_lt_zpow_right₀ one_lt_two (by push_cast; omega)
  have hxf := isFinite_of_ordered hfinite hx
  have hyf := isFinite_of_ordered hfinite hy
  exact (rounds_add hxf hyf).finite_iff.mpr
    ((abs_rounded_le hgrid.two_mul hsum).trans_lt hsmall)

end

/-- The average of finite values is finite exactly if all sums on the way to the total are, and the
median exactly if the sum of the values in the middle is. Exactly then the median lies between the
extremes. Moderate values have a finite average and a finite median. -/
theorem reduce_in_range (s : Series) (hne : s.values ≠ [])
    (hfinite : ∀ x ∈ s.values, x.isFinite = true) :
    ∃ a m lo hi, avg.reduce s = some a ∧ median.reduce s = some m ∧
      min.reduce s = some lo ∧ max.reduce s = some hi ∧
      (a.isFinite = true ↔ ∀ k, (total (s.values.take k)).isFinite = true) ∧
      (m.isFinite = true ↔ MiddleFits s.doubles) ∧
      (m.isFinite = true ↔ lo ≤ m ∧ m ≤ hi) ∧
      ∀ k, Moderate k s.values → a.isFinite = true ∧ m.isFinite = true := by
  have hne' := doubles_ne_nil hne
  have hfinite' : ∀ x ∈ s.doubles, x.toFloat.isFinite = true := List.forall_mem_map.mp hfinite
  have hcount : 0 < s.values.length := List.length_pos_iff.mpr hne
  have hnumber : ∃ x ∈ s.values, x.isNaN = false := by
    obtain ⟨x, hx⟩ := List.exists_mem_of_ne_nil s.values hne
    exact ⟨x, hx, isNaN_of_isFinite (hfinite x hx)⟩
  have hlo := (isExtreme_lesser_iff s.values).mpr hnumber
  have hhi := (isExtreme_greater_iff s.values).mpr hnumber
  have hlof := hlo.isFinite hfinite
  have hhif := hhi.isFinite hfinite
  obtain ⟨hmiddle, hbetween⟩ := middle_between hfinite' hne'
  have haverage : (total s.values / Float.ofNat s.values.length).isFinite = true ↔
      (total s.values).isFinite = true :=
    ⟨isFinite_div_left, fun h => isFinite_div_ofNat h hcount⟩
  refine ⟨_, _, _, _, avg_reduce hne', median_reduce hne', min_reduce hne', max_reduce hne',
    haverage.trans (isFinite_total_iff s.values), hmiddle, ⟨fun h => ?_, fun h => ?_⟩, fun k hk =>
      ⟨haverage.mpr (hk.isFinite_total hfinite), hmiddle.mpr (hk.middleFits hfinite' hne')⟩⟩
  · obtain ⟨x, hx, y, hy, hlower, hupper⟩ := hbetween h
    have hxf := hfinite' x hx
    have hyf := hfinite' y hy
    have hlower' := hlo.bound _ (List.mem_map_of_mem hx) (isNaN_of_isFinite hxf)
    have hupper' := hhi.bound _ (List.mem_map_of_mem hy) (isNaN_of_isFinite hyf)
    exact ⟨le_of_le_le hlower' ((le_iff_number_le hxf h).mpr hlower),
      le_of_le_le ((le_iff_number_le h hyf).mpr hupper) hupper'⟩
  · exact isFinite_of_le_of_le hlof hhif h.1 h.2

/-! Values of both signs and a null point. -/

def drift : Series :=
  ⟨none, none, [⟨.newYear2024, some (.ofFloat 3.0)⟩, ⟨.newYear2024, some (.ofFloat (-2.5))⟩,
    ⟨.newYear2024, none⟩, ⟨.newYear2024, some (.ofFloat 0.1)⟩]⟩

theorem reduce_in_range_drift : drift.values ≠ [] ∧ (∀ x ∈ drift.values, x.isFinite = true) ∧
    ∃ a m lo hi, avg.reduce drift = some a ∧ median.reduce drift = some m ∧
      min.reduce drift = some lo ∧ max.reduce drift = some hi ∧
      a.isFinite = true ∧ m.isFinite = true ∧ lo ≤ m ∧ m ≤ hi := by
  have hvalues : drift.values ≠ [] := by decide
  have hfinite : ∀ x ∈ drift.values, x.isFinite = true := by decide
  have htotal : (total drift.values).isFinite = true := by decide
  have hmiddle : MiddleFits drift.doubles := fun heven => absurd heven (by decide)
  obtain ⟨a, m, lo, hi, ha, hm, hlo, hhi, haverage, hmedian, hbetween, -⟩ :=
    reduce_in_range drift hvalues hfinite
  have hmf := hmedian.mpr hmiddle
  exact ⟨hvalues, hfinite, a, m, lo, hi, ha, hm, hlo, hhi,
    haverage.mpr ((isFinite_total_iff _).mp htotal), hmf, hbetween.mp hmf⟩

/-! Two values of the same size, whose sum is too large for a double. -/

def brink : Series :=
  ⟨none, none, [⟨.newYear2024, some (.ofFloat 1e308)⟩, ⟨.newYear2024, some (.ofFloat 1e308)⟩]⟩

theorem reduce_out_of_range : brink.values ≠ [] ∧ (∀ x ∈ brink.values, x.isFinite = true) ∧
    min.reduce brink = some 1e308 ∧ max.reduce brink = some 1e308 ∧
    avg.reduce brink = some Decimal.infinity ∧ median.reduce brink = some Decimal.infinity ∧
    Decimal.infinity.isFinite = false ∧ ¬Decimal.infinity ≤ 1e308 := by
  have hsorted : ordered brink.doubles = [.ofFloat 1e308, .ofFloat 1e308] :=
    List.perm_replicate.mp (ordered_perm (List.replicate 2 (.ofFloat 1e308)))
  have hmiddle : middle brink.doubles = (1e308 + 1e308) / 2.0 := by
    rw [middle, hsorted]
    simp only [List.map_cons, List.map_nil, Binary64.toFloat_ofFloat]
    rfl
  have hinfinite : ((1e308 + 1e308) / 2.0 : Float) = Decimal.infinity := by decide +kernel
  have hmedian : median.reduce brink = some Decimal.infinity := by
    rw [median_reduce (by simp [brink, Series.doubles]), hmiddle, hinfinite]
  exact ⟨by simp [brink, Series.values, Series.doubles], by decide +kernel, by decide +kernel, by decide +kernel,
    by decide +kernel, hmedian, by decide, by decide +kernel⟩

end Alerting.Reducer
