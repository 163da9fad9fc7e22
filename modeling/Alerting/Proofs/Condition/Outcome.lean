import Alerting.Condition

/-!
# The outcome of a condition

All three parts of an outcome come from the values of the batch that have a
number, whether there are any or not.
-/
namespace Alerting.Condition

variable (c : Condition)

/-- The entry of evidence for a value, if its number passes the test. -/
def hit? (v : Value) : Option Evidence :=
  ((c.reducer.reduceValue v).filter c.evaluator.holds).map (evidenceOf v)

theorem evidence_eq (batch : Batch) : c.evidence batch = batch.filterMap c.hit? := by
  induction batch with
  | nil => rfl
  | cons v batch ih =>
    rw [List.filterMap_cons, ← ih, hit?]
    cases hx : c.reducer.reduceValue v with
    | none => simp [evidence, reduced, hx]
    | some x =>
      by_cases hholds : c.evaluator.holds x = true <;>
        simp [evidence, reduced, hx, hholds, Option.filter_some]

theorem isEmpty_reduced (batch : Batch) :
    (c.reduced batch).isEmpty = (batch.filterMap c.reducer.reduceValue).isEmpty := by
  have hnumbers : (c.reduced batch).map Prod.snd = batch.filterMap c.reducer.reduceValue := by
    simp [reduced, List.map_filterMap, Function.comp_def]
  rw [← hnumbers, List.isEmpty_map]

/-- The numbers of a batch depend on the reducer alone. -/
theorem reduced_congr {c d : Condition} (h : c.reducer = d.reducer) (batch : Batch) :
    c.reduced batch = d.reduced batch := by
  rw [reduced, reduced, h]

@[simp] theorem outcome_noData (batch : Batch) :
    (c.outcome batch).noData = (c.reduced batch).isEmpty := by
  cases h : (c.reduced batch).isEmpty <;> simp [outcome, Outcome.absent, h]

@[simp] theorem outcome_evidence (batch : Batch) :
    (c.outcome batch).evidence = c.evidence batch := by
  cases h : (c.reduced batch).isEmpty
  · simp [outcome, h]
  · simp [outcome, Outcome.absent, evidence, List.isEmpty_iff.mp h]

@[simp] theorem outcome_firing (batch : Batch) :
    (c.outcome batch).firing = !(c.evidence batch).isEmpty := by
  cases h : (c.reduced batch).isEmpty
  · simp [outcome, h]
  · simp [outcome, Outcome.absent, evidence, List.isEmpty_iff.mp h]

end Alerting.Condition
