import Alerting.Proofs.Double.Order
import Alerting.Reducer

/-!
# The least and the greatest double

Both extremes pass over what is no number, and compare as the least and the greatest place among the
numbers. So they come out equal in whatever order the doubles are taken.
-/
namespace Alerting.Reducer
open Double

/-- The choice of one of two doubles goes by their places, and passes over what is no number. -/
def GoesBy (pick : Float → Float → Float) (op : ℤ → ℤ → ℤ) : Prop :=
  ∀ x y, x.isNaN = false → (pick x y).isNaN = false ∧
    level (pick x y) = if y.isNaN then level x else op (level x) (level y)

/-- A choice that passes over what is no number and else asks `r` goes by places if `r` asks for the
place that `op` takes. -/
theorem goesBy_of {pick : Float → Float → Float} {op : ℤ → ℤ → ℤ} {r : Float → Float → Prop}
    [DecidableRel r]
    (hpick : ∀ x y, pick x y =
      if y.isNaN then x else if x.isNaN then y else if r x y then y else x)
    (hop : ∀ x y, x.isNaN = false → y.isNaN = false →
      op (level x) (level y) = if r x y then level y else level x) : GoesBy pick op := by
  intro x y hx
  rw [hpick, if_neg (c := x.isNaN = true) (ne_true_of_eq_false hx)]
  by_cases hy : y.isNaN = true
  · rw [if_pos hy, if_pos hy]
    exact ⟨hx, rfl⟩
  · rw [if_neg hy, if_neg hy, hop x y hx (eq_false_of_ne_true hy)]
    split
    · exact ⟨eq_false_of_ne_true hy, rfl⟩
    · exact ⟨hx, rfl⟩

theorem lesser_goesBy : GoesBy lesser Min.min := by
  refine goesBy_of (r := fun x y => y < x) (fun _ _ => rfl) fun x y hx hy => ?_
  split
  · rename_i h
    exact min_eq_right (lt_iff.mp h).2.2.le
  · rename_i h
    exact min_eq_left (not_lt.mp fun hlt => h (lt_iff.mpr ⟨hy, hx, hlt⟩))

theorem greater_goesBy : GoesBy greater Max.max := by
  refine goesBy_of (r := fun x y => x < y) (fun _ _ => rfl) fun x y hx hy => ?_
  split
  · rename_i h
    exact max_eq_right (lt_iff.mp h).2.2.le
  · rename_i h
    exact max_eq_left (not_lt.mp fun hlt => h (lt_iff.mpr ⟨hx, hy, hlt⟩))

section
variable {pick : Float → Float → Float} {op : ℤ → ℤ → ℤ} (hpick : GoesBy pick op)
include hpick

/-- What is picked from a number and a list of doubles has the place that the numbers among them
give. -/
theorem foldl_goesBy (xs : List Float) {start : Float} (hstart : start.isNaN = false) :
    (xs.foldl pick start).isNaN = false ∧ level (xs.foldl pick start) =
      ((xs.filter fun x => !x.isNaN).map level).foldl op (level start) := by
  induction xs generalizing start with
  | nil => exact ⟨hstart, rfl⟩
  | cons x xs ih =>
    obtain ⟨hnumber, hlevel⟩ := hpick start x hstart
    obtain ⟨hnumber', hlevel'⟩ := ih hnumber
    refine ⟨hnumber', ?_⟩
    rw [List.foldl_cons, hlevel', hlevel]
    cases hx : x.isNaN with
    | true =>
      rw [List.filter_cons_of_neg (by rw [hx]; decide)]
      rfl
    | false =>
      rw [List.filter_cons_of_pos (by rw [hx]; rfl)]
      rfl

theorem foldl_pick_perm [Std.Associative op] [Std.Commutative op] {xs ys : List Float}
    (h : xs.Perm ys) {start : Float} (hstart : start.isNaN = false) :
    (xs.foldl pick start == ys.foldl pick start) = true := by
  obtain ⟨hx, hlevel⟩ := foldl_goesBy hpick xs hstart
  obtain ⟨hy, hlevel'⟩ := foldl_goesBy hpick ys hstart
  refine beq_iff.mpr ⟨hx, hy, ?_⟩
  rw [hlevel, hlevel']
  exact ((h.filter _).map _).foldl_op_eq

end

/-- The extremes of a list in any order compare as equal. -/
theorem extremes_perm {xs ys : List Float} (h : xs.Perm ys) :
    (xs.foldl lesser Decimal.infinity == ys.foldl lesser Decimal.infinity) = true ∧
      (xs.foldl greater (-Decimal.infinity) == ys.foldl greater (-Decimal.infinity)) = true :=
  ⟨foldl_pick_perm lesser_goesBy h (by decide), foldl_pick_perm greater_goesBy h (by decide)⟩

end Alerting.Reducer
