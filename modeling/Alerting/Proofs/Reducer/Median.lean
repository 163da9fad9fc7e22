import Alerting.Proofs.Binary64
import Alerting.Reducer

/-!
# The median

A list of doubles has one arrangement by rank, whatever its order. The median is read off the middle
of this arrangement.
-/
namespace Alerting.Reducer
open Binary64 (rank rank_inj)

/-! ## Doubles in order -/

theorem ordered_perm (xs : List Binary64) : (ordered xs).Perm xs := List.mergeSort_perm ..

theorem pairwise_ordered (xs : List Binary64) : (ordered xs).Pairwise fun x y => rank x ≤ rank y := by
  have hsorted : (ordered xs).Pairwise fun x y => decide (rank x ≤ rank y) = true := by
    refine List.pairwise_mergeSort ?_ ?_ xs
    · intro x y z hxy hyz
      exact decide_eq_true ((of_decide_eq_true hxy).trans (of_decide_eq_true hyz))
    · intro x y
      simpa using Nat.le_total (rank x) (rank y)
  exact hsorted.imp of_decide_eq_true

/-- There is one arrangement by rank. -/
theorem eq_ordered {xs sorted : List Binary64} (hperm : sorted.Perm xs)
    (h : sorted.Pairwise fun x y => rank x ≤ rank y) : sorted = ordered xs := by
  refine List.Perm.eq_of_pairwise ?_ h (pairwise_ordered xs) (hperm.trans (ordered_perm xs).symm)
  intro x y _ _ hxy hyx
  exact rank_inj (Nat.le_antisymm hxy hyx)

theorem ordered_congr {xs ys : List Binary64} (h : xs.Perm ys) : ordered xs = ordered ys :=
  eq_ordered ((ordered_perm xs).trans h) (pairwise_ordered xs)

theorem length_ordered (xs : List Binary64) : (ordered xs).length = xs.length :=
  (ordered_perm xs).length_eq

/-- In a list in order, only what is before a double is below it, and only what is after it is
above it. -/
theorem countP_of_pairwise {sorted : List Binary64} (h : sorted.Pairwise fun x y => rank x ≤ rank y)
    {k : ℕ} {x : Binary64} (hx : sorted[k]? = some x) :
    sorted.countP (fun y => rank y < rank x) ≤ k ∧
      sorted.countP (fun y => rank x < rank y) + k < sorted.length := by
  induction sorted generalizing k with
  | nil => cases hx
  | cons y ys ih =>
    obtain ⟨hy, hys⟩ := List.pairwise_cons.mp h
    cases k with
    | zero =>
      obtain rfl : y = x := Option.some.inj hx
      have hnone : ys.countP (fun z => rank z < rank y) = 0 := by
        rw [List.countP_eq_zero]
        intro z hz
        simpa using hy z hz
      have hle := List.countP_le_length (p := fun z => decide (rank y < rank z)) (l := ys)
      simp only [List.countP_cons, hnone, List.length_cons, lt_self_iff_false, decide_false,
        Bool.false_eq_true, if_false]
      omega
    | succ k =>
      -- The first double is not above `x`, so it only counts among those below.
      have hx' : ys[k]? = some x := hx
      obtain ⟨hbelow, habove⟩ := ih hys hx'
      have hyx : rank y ≤ rank x := hy x (List.mem_of_getElem? hx')
      simp only [List.countP_cons, List.length_cons, decide_eq_true_iff, if_neg hyx.not_gt]
      constructor
      · split <;> omega
      · omega

/-! ## The middle -/

section
variable {xs : List Binary64}

theorem middle_of_odd (h : xs.length % 2 = 1) :
    ∃ x, (ordered xs)[xs.length / 2]? = some x ∧ middle xs = x.toFloat := by
  have hlt : xs.length / 2 < (ordered xs).length := by
    rw [length_ordered]
    omega
  refine ⟨_, List.getElem?_eq_getElem hlt, ?_⟩
  rw [middle, List.length_map, length_ordered, if_pos h, List.getElem?_map,
    List.getElem?_eq_getElem hlt]
  rfl

theorem middle_of_even (h : xs.length % 2 = 0) (hne : xs ≠ []) :
    0 < xs.length / 2 ∧ ∃ a b, (ordered xs)[xs.length / 2 - 1]? = some a ∧
      (ordered xs)[xs.length / 2]? = some b ∧ middle xs = (a.toFloat + b.toFloat) / 2.0 := by
  have hpos := List.length_pos_iff.mpr hne
  have hlt : xs.length / 2 < (ordered xs).length := by
    rw [length_ordered]
    omega
  have hlt' : xs.length / 2 - 1 < (ordered xs).length := by omega
  refine ⟨by omega, _, _, List.getElem?_eq_getElem hlt', List.getElem?_eq_getElem hlt, ?_⟩
  rw [middle, List.length_map, length_ordered, if_neg (by omega), List.getElem?_map,
    List.getElem?_map, List.getElem?_eq_getElem hlt, List.getElem?_eq_getElem hlt']
  rfl

/-- The double in the middle has no more than half of the others below it and above it. -/
theorem countP_of_odd {x : Binary64} (h : xs.length % 2 = 1)
    (hx : (ordered xs)[xs.length / 2]? = some x) :
    xs.countP (fun y => rank y < rank x) ≤ (xs.length - 1) / 2 ∧
      xs.countP (fun y => rank x < rank y) ≤ (xs.length - 1) / 2 := by
  have hcount := countP_of_pairwise (pairwise_ordered xs) hx
  rw [(ordered_perm xs).countP_eq, (ordered_perm xs).countP_eq, length_ordered] at hcount
  omega

/-- The median of doubles, as it is read off an arrangement of them by rank. -/
structure IsMedian (xs sorted : List Binary64) (m : Float) : Prop where
  perm : sorted.Perm xs
  pairwise : sorted.Pairwise fun x y => rank x ≤ rank y
  odd : xs.length % 2 = 1 → ∃ x ∈ xs, sorted[xs.length / 2]? = some x ∧ m = x.toFloat ∧
    xs.countP (fun y => rank y < rank x) ≤ (xs.length - 1) / 2 ∧
    xs.countP (fun y => rank x < rank y) ≤ (xs.length - 1) / 2
  even : xs.length % 2 = 0 → 0 < xs.length / 2 ∧ ∃ a b,
    sorted[xs.length / 2 - 1]? = some a ∧ sorted[xs.length / 2]? = some b ∧
      m = (a.toFloat + b.toFloat) / 2.0

theorem isMedian_middle (hne : xs ≠ []) : IsMedian xs (ordered xs) (middle xs) where
  perm := ordered_perm xs
  pairwise := pairwise_ordered xs
  odd h := by
    obtain ⟨x, hx, hmiddle⟩ := middle_of_odd h
    have hmem := (ordered_perm xs).mem_iff.mp (List.mem_of_getElem? hx)
    exact ⟨x, hmem, hx, hmiddle, countP_of_odd h hx⟩
  even h := middle_of_even h hne

theorem middle_congr {ys : List Binary64} (h : xs.Perm ys) : middle xs = middle ys := by
  rw [middle, middle, ordered_congr h]

end

end Alerting.Reducer
