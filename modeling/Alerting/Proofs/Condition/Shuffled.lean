import Alerting.Proofs.Command.Evidence
import Alerting.Proofs.Dictionary
import Alerting.Proofs.Reducer.Extremes
import Alerting.Proofs.Reducer.Median

/-!
# The order of points

Counts and the median do not depend on the order of the points in a series, and the extremes only in
the sign of a zero, which no test of a number sees. So the flags of a condition on one of these
reducers stay the same when points change places.
-/
namespace Alerting

/-- The doubles are the same, or they are the same number with zeros of any sign. -/
def SameNumber (x y : Float) : Prop := x = y ∨ (x == y) = true

theorem rel_sameNumber_refl (x : Option Float) : Option.Rel SameNumber x x := by
  cases x with
  | none => exact .none
  | some x => exact .some (.inl rfl)

section
variable {R S : Float → Float → Prop} {x y : Option Float}

theorem eq_of_rel (h : Option.Rel Eq x y) : x = y := by
  cases h with
  | none => rfl
  | some h => exact congrArg some h

theorem isNone_of_rel (h : Option.Rel R x y) : x.isNone = y.isNone := by
  cases h <;> rfl

theorem rel_imp (hRS : ∀ x y, R x y → S x y) (h : Option.Rel R x y) : Option.Rel S x y := by
  cases h with
  | none => exact .none
  | some h => exact .some (hRS _ _ h)

end

/-! ## Tests -/

namespace Evaluator

/-- No test tells doubles apart that compare as equal. -/
theorem holds_of_beq (e : Evaluator) {x y : Float} (h : (x == y) = true) :
    e.holds x = e.holds y := by
  obtain ⟨hx, hy, hlevel⟩ := Double.beq_iff.mp h
  have hlt (z : Float) : (x < z ↔ y < z) ∧ (z < x ↔ z < y) := by
    simp only [Double.lt_iff, hx, hy, hlevel, and_self]
  have hle (z : Float) : (x ≤ z ↔ y ≤ z) ∧ (z ≤ x ↔ z ≤ y) := by
    simp only [Double.le_iff, hx, hy, hlevel, and_self]
  have heq (z : Float) : (x == z) = (y == z) := by
    rw [Bool.eq_iff_iff]
    simp only [Double.beq_iff, hx, hy, hlevel]
  cases e with
  | threshold comparison limit =>
    cases comparison with
    | gt => exact decide_eq_decide.mpr (hlt limit).2
    | lt => exact decide_eq_decide.mpr (hlt limit).1
    | ge => exact decide_eq_decide.mpr (hle limit).2
    | le => exact decide_eq_decide.mpr (hle limit).1
    | eq => exact heq limit
    | ne => exact congrArg not (heq limit)
  | range side lower upper =>
    simp only [holds, RangeSide.holds, (hle lower).2, (hle upper).1]

theorem holds_of_sameNumber (e : Evaluator) {x y : Float} (h : SameNumber x y) :
    e.holds x = e.holds y :=
  h.elim (congrArg e.holds) e.holds_of_beq

theorem any_holds_of_rel (e : Evaluator) {x y : Option Float} (h : Option.Rel SameNumber x y) :
    x.any e.holds = y.any e.holds := by
  cases h with
  | none => rfl
  | some h => exact e.holds_of_sameNumber h

end Evaluator

/-! ## Series -/

def Series.Shuffled (s t : Series) : Prop :=
  ∃ points, s.points.Perm points ∧ t = { s with points }

namespace Reducer

theorem median_reduce {s : Series} (h : s.doubles ≠ []) :
    median.reduce s = some (middle s.doubles) := by
  obtain ⟨first, rest, hdoubles⟩ := List.exists_cons_of_ne_nil h
  rw [reduce, hdoubles]
  rfl

section
variable {s t : Series} (h : s.Shuffled t)
include h

/-- A relation between the numbers of the same values in any order relates the numbers of the
series. -/
theorem reduce_rel {r : Reducer} {R : Float → Float → Prop}
    (hr : ∀ k first rest first' rest', (first :: rest).Perm (first' :: rest') →
      R (r.reduceValues k first rest) (r.reduceValues k first' rest')) :
    Option.Rel R (r.reduce s) (r.reduce t) := by
  obtain ⟨points, hpoints, rfl⟩ := h
  have hdoubles : s.doubles.Perm (Series.doubles { s with points }) := hpoints.filterMap _
  -- A count also reads the number of all points, null points among them.
  have hlength : points.length = s.points.length := hpoints.length_eq.symm
  rw [reduce, reduce]
  cases hs : s.doubles with
  | nil =>
    rw [hs] at hdoubles
    rw [List.nil_perm.mp hdoubles]
    exact .none
  | cons first rest =>
    rw [hs] at hdoubles
    cases ht : Series.doubles { s with points } with
    | nil => exact absurd (ht ▸ hdoubles) List.not_perm_cons_nil
    | cons first' rest' =>
      rw [ht] at hdoubles
      exact .some (hlength ▸ hr _ _ _ _ _ hdoubles)

theorem ordered_of_shuffled : ordered s.doubles = ordered t.doubles := by
  obtain ⟨points, hpoints, rfl⟩ := h
  exact ordered_congr (hpoints.filterMap _)

theorem reduce_of_shuffled {r : Reducer} (hr : r ∈ [median, count, countNonNull]) :
    r.reduce s = r.reduce t := by
  refine eq_of_rel (reduce_rel h fun k first rest first' rest' hp => ?_)
  have hlength : (first :: rest).length = (first' :: rest').length := hp.length_eq
  fin_cases hr
  · exact middle_congr hp
  · rfl
  · exact congrArg Float.ofNat (by rw [List.length_map, List.length_map, hlength])

theorem reduce_extreme_of_shuffled {r : Reducer} (hr : r ∈ [min, max]) :
    Option.Rel (fun x y => (x == y) = true) (r.reduce s) (r.reduce t) := by
  refine reduce_rel h fun k first rest first' rest' hp => ?_
  fin_cases hr
  · exact (extremes_perm (hp.map Binary64.toFloat)).1
  · exact (extremes_perm (hp.map Binary64.toFloat)).2

end

theorem reduce_sameNumber {r : Reducer} (hr : r ∈ [median, count, countNonNull] ++ [min, max])
    {s t : Series} (h : s.Shuffled t) : Option.Rel SameNumber (r.reduce s) (r.reduce t) := by
  rcases List.mem_append.mp hr with hr | hr
  · rw [reduce_of_shuffled h hr]
    exact rel_sameNumber_refl _
  · exact rel_imp (fun _ _ => .inr) (reduce_extreme_of_shuffled h hr)

end Reducer

/-! ## Conditions -/

/-- The value is the same but for the order of the points, if it is a series. -/
inductive Value.Shuffled : Value → Value → Prop where
  | series {s t : Series} : s.Shuffled t → Value.Shuffled (.series s) (.series t)
  | refl (v : Value) : Value.Shuffled v v

/-- The batches have the same values in the same order, but for the order of the points in each
series. A missing batch is an empty one. -/
def Vars.Shuffled (v w : Vars) : Prop :=
  ∀ id, List.Forall₂ Value.Shuffled ((v.get? id).getD []) ((w.get? id).getD [])

namespace Condition

variable (c : Condition)

theorem outcome_firing_eq_any (batch : Batch) :
    (c.outcome batch).firing = (batch.map c.passes).any id := by
  rw [outcome_firing, evidence_eq, Bool.eq_iff_iff]
  simp [List.filterMap_eq_nil_iff, ← isSome_hit?, Option.isSome_iff_ne_none]

theorem outcome_noData_eq_all (batch : Batch) : (c.outcome batch).noData =
    (batch.map fun v => (c.reducer.reduceValue v).isNone).all id := by
  rw [outcome_noData, isEmpty_reduced, Bool.eq_iff_iff]
  simp [List.filterMap_eq_nil_iff]

section
variable {c} (hc : c.reducer ∈ [.median, .count, .countNonNull, .min, .max])
include hc

theorem reduceValue_sameNumber {v w : Value} (h : v.Shuffled w) :
    Option.Rel SameNumber (c.reducer.reduceValue v) (c.reducer.reduceValue w) := by
  cases h with
  | series h => exact Reducer.reduce_sameNumber hc h
  | refl => exact rel_sameNumber_refl _

theorem passes_of_shuffled {v w : Value} (h : v.Shuffled w) : c.passes v = c.passes w :=
  c.evaluator.any_holds_of_rel (reduceValue_sameNumber hc h)

variable {v w : Vars} (h : v.Shuffled w)
include h

theorem firing_of_shuffled : (c.evaluate v).firing = (c.evaluate w).firing := by
  have hflags := List.rel_map (fun _ _ hvalue => passes_of_shuffled hc hvalue) (h c.input)
  rw [List.forall₂_eq_eq_eq] at hflags
  rw [evaluate, evaluate, outcome_firing_eq_any, outcome_firing_eq_any, hflags]

theorem noData_of_shuffled : (c.evaluate v).noData = (c.evaluate w).noData := by
  have hflags := List.rel_map
    (fun _ _ hvalue => isNone_of_rel (reduceValue_sameNumber hc hvalue)) (h c.input)
  rw [List.forall₂_eq_eq_eq] at hflags
  rw [evaluate, evaluate, outcome_noData_eq_all, outcome_noData_eq_all, hflags]

end

end Condition

namespace Reducer

/-- The median is what its name says, by the order of doubles that ranks give. It and the counts are
the same and the extremes compare as equal for the points of a series in any order, where only zeros
differ in their signs. Conditions on these reducers then fire and lack data as before. -/
theorem reduce_shuffled : Binary64.OrdersDoubles Binary64.rank ∧
    (∀ s : Series, s.doubles ≠ [] → ∃ m, median.reduce s = some m ∧
      IsMedian s.doubles (ordered s.doubles) m) ∧
    (∀ s t : Series, s.Shuffled t → ordered s.doubles = ordered t.doubles ∧
      (∀ r ∈ [median, count, countNonNull], r.reduce s = r.reduce t) ∧
      ∀ r ∈ [min, max], Option.Rel
        (fun x y => (x == y) = true ∧ (x = y ∨ (x == 0.0) = true ∧ (y == 0.0) = true))
        (r.reduce s) (r.reduce t)) ∧
    ∀ c : Condition, c.reducer ∈ [median, count, countNonNull, min, max] →
      ∀ v w : Vars, v.Shuffled w → (c.evaluate v).firing = (c.evaluate w).firing ∧
        (c.evaluate v).noData = (c.evaluate w).noData := by
  refine ⟨Binary64.rank_ordersDoubles, fun s hs => ?_,
    fun s t h => ⟨ordered_of_shuffled h, fun r hr => ?_, fun r hr => ?_⟩, ?_⟩
  · exact ⟨_, median_reduce hs, isMedian_middle hs⟩
  · exact reduce_of_shuffled h hr
  · exact rel_imp (fun _ _ heq => ⟨heq, Double.eq_or_zero_of_beq heq⟩)
      (reduce_extreme_of_shuffled h hr)
  · exact fun c hc v w h => ⟨Condition.firing_of_shuffled hc h, Condition.noData_of_shuffled hc h⟩

/-! Zeros of both signs beside a null point and what is no number with a minus, in two orders. -/

def calm : Series :=
  ⟨none, none, [⟨.newYear2024, some (.ofFloat 0.0)⟩, ⟨.newYear2024, none⟩,
    ⟨.newYear2024, some ⟨0xFFF8000000000000⟩⟩, ⟨.newYear2024, some (.ofFloat (-0.0))⟩]⟩

def calmBackwards : Series := { calm with points := calm.points.reverse }

theorem calm_shuffled : calm.Shuffled calmBackwards :=
  ⟨calm.points.reverse, (List.reverse_perm _).symm, rfl⟩

def atRest : Condition := ⟨"speed", .min, .and, .range .within 0.0 0.0⟩

def speeds (s : Series) : Vars := Dictionary.ofList [("speed", [.series s])]

theorem speeds_shuffled {s t : Series} (h : s.Shuffled t) : (speeds s).Shuffled (speeds t) := by
  intro id
  rw [speeds, speeds, Dictionary.get?_ofList_singleton, Dictionary.get?_ofList_singleton]
  split
  · exact .cons (.series h) .nil
  · exact .nil

theorem median_calm : median.reduce calm = some (-0.0) := by
  have hordered : [⟨0xFFF8000000000000⟩, .ofFloat (-0.0), .ofFloat 0.0] = ordered calm.doubles :=
    eq_ordered (by decide) (by decide)
  rw [median_reduce (by decide), middle, ← hordered]
  decide

theorem reduce_shuffled_calm : calm.Shuffled calmBackwards ∧
    (∃ m, median.reduce calm = some m ∧ IsMedian calm.doubles (ordered calm.doubles) m) ∧
    median.reduce calm = some (-0.0) ∧ median.reduce calm = median.reduce calmBackwards ∧
    Option.Rel (fun x y => (x == y) = true ∧ (x = y ∨ (x == 0.0) = true ∧ (y == 0.0) = true))
      (min.reduce calm) (min.reduce calmBackwards) ∧
    (atRest.evaluate (speeds calm)).firing = true ∧
    (atRest.evaluate (speeds calmBackwards)).firing = true ∧
    (atRest.evaluate (speeds calm)).noData =
      (atRest.evaluate (speeds calmBackwards)).noData := by
  obtain ⟨-, hmedian, hshuffled, hcondition⟩ := reduce_shuffled
  obtain ⟨-, hsame, hextreme⟩ := hshuffled calm calmBackwards calm_shuffled
  obtain ⟨hfiring, hnoData⟩ :=
    hcondition atRest (by decide) _ _ (speeds_shuffled calm_shuffled)
  have hcalm : (atRest.evaluate (speeds calm)).firing = true := by decide
  exact ⟨calm_shuffled, hmedian calm (by decide), median_calm, hsame median (by decide),
    hextreme min (by decide), hcalm, hfiring ▸ hcalm, hnoData⟩

end Reducer
end Alerting
