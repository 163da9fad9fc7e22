import Alerting.Proofs.Command.Inputs
import Alerting.Proofs.Dictionary

/-!
# Missing data in all its forms

A null number, a series without numbers and the note of no data all come to the same, whatever the
reducer. A batch of such values counts as an empty one and an empty one as a missing one, so they
may be put in and taken out at will.
-/
namespace Alerting

/-- A value without any number. -/
def Value.IsDead : Value → Prop
  | .series s => ∀ p ∈ s.points, p.value = none
  | .number n => n.value = none
  | .noData => True

instance : DecidablePred Value.IsDead
  | .series s => inferInstanceAs (Decidable (∀ p ∈ s.points, p.value = none))
  | .number n => inferInstanceAs (Decidable (n.value = none))
  | .noData => inferInstanceAs (Decidable True)

def Batch.living (batch : Batch) : Batch := batch.filter fun v => ¬v.IsDead

/-- The batches without their dead values, as far as any values are left. -/
def Vars.living (vars : Vars) : Vars := (vars.map Batch.living).filter (!·.isEmpty)

/-- The second batch is the first one with dead values put in, at any places. -/
inductive Batch.Padded : Batch → Batch → Prop where
  | nil : Padded [] []
  | keep {batch more : Batch} (v : Value) : Padded batch more → Padded (v :: batch) (v :: more)
  | pad {batch more : Batch} (v : Value) : v.IsDead → Padded batch more → Padded batch (v :: more)

theorem Reducer.reduceValue_eq_none {r : Reducer} {v : Value} :
    r.reduceValue v = none ↔ v.IsDead := by
  cases v with
  | series s =>
    have hdoubles : s.doubles = [] ↔ ∀ p ∈ s.points, p.value = none := List.filterMap_eq_nil_iff
    rw [reduceValue, reduce, Value.IsDead, ← hdoubles]
    cases s.doubles <;> simp
  | number n => rfl
  | noData => simp [reduceValue, Value.IsDead]

theorem Batch.padded_living (batch : Batch) : Padded batch.living batch := by
  induction batch with
  | nil => exact .nil
  | cons v batch ih =>
    by_cases hv : v.IsDead
    · rw [living, List.filter_cons_of_neg (by simpa using hv)]
      exact .pad v hv ih
    · rw [living, List.filter_cons_of_pos (by simpa using hv)]
      exact .keep v ih

theorem Vars.batch_living (vars : Vars) (id : String) :
    (vars.living.get? id).getD [] = Batch.living ((vars.get? id).getD []) := by
  rw [living, Dictionary.get?_filter, Dictionary.get?_map]
  cases vars.get? id with
  | none => rfl
  | some batch =>
    cases h : batch.living <;> simp [h, Option.filter_some]

namespace Condition

variable (c : Condition)

/-- Dead values add nothing to the numbers of a batch. -/
theorem reduced_padded {batch more : Batch} (h : batch.Padded more) :
    c.reduced more = c.reduced batch := by
  induction h with
  | nil => rfl
  | @keep batch more v _ ih =>
    simp only [reduced] at ih
    rw [reduced, reduced, List.filterMap_cons, List.filterMap_cons, ih]
  | @pad batch more v hv _ ih =>
    rw [← ih, reduced, reduced, List.filterMap_cons, Reducer.reduceValue_eq_none.mpr hv]
    rfl

theorem outcome_padded {batch more : Batch} (h : batch.Padded more) :
    c.outcome more = c.outcome batch := by
  simp only [outcome, evidence, c.reduced_padded h]

end Condition

/-- A value has no number for any reducer exactly when it is dead. A verdict does not change when
all dead values are taken away, with the batches that are empty then, and neither when dead values
are put into any batches, also into missing ones. -/
theorem Command.execute_padded (cmd : Command) :
    (∀ (r : Reducer) (v : Value), r.reduceValue v = none ↔ v.IsDead) ∧
    (∀ (vars : Vars) (now later : Time.Instant),
      cmd.execute now vars = cmd.execute later vars.living) ∧
    ∀ (vars more : Vars) (now later : Time.Instant),
      (∀ id, Batch.Padded ((vars.get? id).getD []) ((more.get? id).getD [])) →
      cmd.execute now more = cmd.execute later vars := by
  have hpadded (vars more : Vars) (now later : Time.Instant)
      (h : ∀ id, Batch.Padded ((vars.get? id).getD []) ((more.get? id).getD [])) :
      cmd.execute now more = cmd.execute later vars := by
    rw [execute_eq, execute_eq,
      cmd.verdict_congr (fun c _ => c.outcome_padded (h c.input)) now later]
  refine ⟨fun r v => Reducer.reduceValue_eq_none, fun vars now later => ?_, hpadded⟩
  refine hpadded vars.living vars now later fun id => ?_
  rw [vars.batch_living]
  exact Batch.padded_living _

end Alerting
