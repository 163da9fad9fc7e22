import Alerting.Proofs.Command.Monotone
import Alerting.Proofs.Double.Order

/-!
# Looser tests keep an alert firing

A test that more numbers pass finds all evidence of the test that it stands for, and has data for
the same batches. Tests become looser when their limits are moved, which follows from the order of
doubles also for zeros of both signs and for ranges that are upside down.
-/
namespace Alerting

/-! ## Tests -/

namespace Evaluator

def Implies (e f : Evaluator) : Prop := ∀ x, e.holds x = true → f.holds x = true

/-- The second test is the first one with its limits moved towards the numbers outside. Limits
compare as doubles, so each of them is a number. -/
inductive Looser : Evaluator → Evaluator → Prop where
  | gt {limit limit' : Float} : limit' ≤ limit →
      Looser (.threshold .gt limit) (.threshold .gt limit')
  | ge {limit limit' : Float} : limit' ≤ limit →
      Looser (.threshold .ge limit) (.threshold .ge limit')
  | lt {limit limit' : Float} : limit ≤ limit' →
      Looser (.threshold .lt limit) (.threshold .lt limit')
  | le {limit limit' : Float} : limit ≤ limit' →
      Looser (.threshold .le limit) (.threshold .le limit')
  | within {lower lower' upper upper' : Float} : lower' ≤ lower → upper ≤ upper' →
      Looser (.range .within lower upper) (.range .within lower' upper')
  | outside {lower lower' upper upper' : Float} : lower ≤ lower' → upper' ≤ upper →
      Looser (.range .outside lower upper) (.range .outside lower' upper')

theorem within_holds {lower upper x : Float} :
    (range .within lower upper).holds x = true ↔ lower ≤ x ∧ x ≤ upper := by
  simp [holds, RangeSide.holds]

theorem outside_holds {lower upper x : Float} :
    (range .outside lower upper).holds x = true ↔ ¬(lower ≤ x ∧ x ≤ upper) := by
  rw [not_and_or]
  simp [holds, RangeSide.holds]

theorem Looser.implies {e f : Evaluator} (h : e.Looser f) : e.Implies f := by
  intro x hx
  cases h with
  | gt h => exact decide_eq_true (Double.lt_of_le_lt h (of_decide_eq_true hx))
  | ge h => exact decide_eq_true (Double.le_of_le_le h (of_decide_eq_true hx))
  | lt h => exact decide_eq_true (Double.lt_of_lt_le (of_decide_eq_true hx) h)
  | le h => exact decide_eq_true (Double.le_of_le_le (of_decide_eq_true hx) h)
  | within hlower hupper =>
    rw [within_holds] at hx ⊢
    exact ⟨Double.le_of_le_le hlower hx.1, Double.le_of_le_le hx.2 hupper⟩
  | outside hlower hupper =>
    rw [outside_holds] at hx ⊢
    rintro ⟨hl, hu⟩
    exact hx ⟨Double.le_of_le_le hlower hl, Double.le_of_le_le hu hupper⟩

end Evaluator

/-! ## Conditions -/

/-- The second condition is the first one with a test that no number fails newly. -/
structure Condition.Loosened (c d : Condition) : Prop where
  input : c.input = d.input
  reducer : c.reducer = d.reducer
  operator : c.operator = d.operator
  evaluator : c.evaluator.Implies d.evaluator

namespace Condition.Loosened

variable {c d : Condition} (h : c.Loosened d)
include h

theorem evidence_sublist (batch : Batch) : (c.evidence batch).Sublist (d.evidence batch) := by
  rw [Condition.evidence, Condition.evidence, reduced_congr h.reducer]
  exact (List.monotone_filter_right _ fun (e : Value × Float) => h.evaluator e.2).map _

variable (vars : Vars)

theorem noData : (c.evaluate vars).noData = (d.evaluate vars).noData := by
  simp only [evaluate, outcome_noData, h.input, reduced_congr h.reducer]

theorem firing (hc : (c.evaluate vars).firing = true) : (d.evaluate vars).firing = true := by
  simp only [evaluate, outcome_firing, Bool.not_eq_true', ← Bool.not_eq_true, h.input] at hc ⊢
  exact mt (isEmpty_of_sublist (h.evidence_sublist _)) hc

theorem evidence : (c.evaluate vars).evidence.Sublist (d.evaluate vars).evidence := by
  simp only [evaluate, outcome_evidence, h.input]
  exact h.evidence_sublist _

end Condition.Loosened

/-! ## Commands -/

namespace Command

section
variable (refId : String) {cs ds : List Condition} (h : List.Forall₂ Condition.Loosened cs ds)
  (vars : Vars)
include h

theorem hasNoData_loosened : hasNoData ⟨refId, cs⟩ vars = hasNoData ⟨refId, ds⟩ vars := by
  have hflags : flags ⟨refId, cs⟩ vars Outcome.noData = flags ⟨refId, ds⟩ vars Outcome.noData := by
    rw [← List.forall₂_eq_eq_eq, flags, flags, List.forall₂_map_left_iff,
      List.forall₂_map_right_iff]
    exact h.imp fun c d hcd => Prod.ext hcd.operator (hcd.noData vars)
  rw [hasNoData_eq, hasNoData_eq, hflags]

theorem isFiring_loosened (hc : isFiring ⟨refId, cs⟩ vars = true) :
    isFiring ⟨refId, ds⟩ vars = true := by
  rw [isFiring_eq] at hc ⊢
  refine chain_mono ?_ hc
  rw [Below, flags, flags, List.forall₂_map_left_iff, List.forall₂_map_right_iff]
  exact h.imp fun c d hcd => ⟨hcd.operator, hcd.firing vars⟩

theorem evidence_loosened : (cs.flatMap fun c => (c.evaluate vars).evidence).Sublist
    (ds.flatMap fun d => (d.evaluate vars).evidence) := by
  induction h with
  | nil => exact List.nil_sublist _
  | cons hcd _ ih =>
    rw [List.flatMap_cons, List.flatMap_cons]
    exact (hcd.evidence vars).append ih

end

/-- Conditions with looser tests have data when the former ones have, fire when these do and keep
their evidence in place. Moving the limit of a threshold or the ends of a range makes a test
looser. -/
theorem execute_loosened (refId : String) (now later : Time.Instant) :
    (∀ cs ds : List Condition, List.Forall₂ Condition.Loosened cs ds → ∀ vars : Vars,
      ∃ n m : Number, execute ⟨refId, cs⟩ now vars = [.number n] ∧
        execute ⟨refId, ds⟩ later vars = [.number m] ∧
        (n.value = none ↔ m.value = none) ∧
        (n.value = some 1.0 → m.value = some 1.0) ∧
        (n.value ≠ none → ∃ before after, n.evidence = some before ∧ m.evidence = some after ∧
          before.Sublist after)) ∧
    ∀ e f : Evaluator, e.Looser f → e.Implies f := by
  refine ⟨fun cs ds h vars => ?_, fun e f h => h.implies⟩
  have hnoData := hasNoData_loosened refId h vars
  refine ⟨_, _, execute_eq .., execute_eq .., ?_, ?_, ?_⟩
  · rw [verdict_value_eq_none, verdict_value_eq_none, hnoData]
  · rw [verdict_value_eq_one, verdict_value_eq_one, hnoData]
    exact fun ⟨hdata, hfiring⟩ => ⟨hdata, isFiring_loosened refId h vars hfiring⟩
  · rw [ne_eq, verdict_value_eq_none, hnoData]
    intro hdata
    refine ⟨_, _, verdict_evidence .., verdict_evidence .., ?_⟩
    rw [hnoData, if_neg hdata, if_neg hdata]
    exact evidence_loosened h vars

/-! A threshold moves from zero to the other zero, and a range that is upside down, outside which
every number is, is moved further apart. -/

def aboveZero : Condition := ⟨"A", .avg, .and, .threshold .gt 0.0⟩

def outsideNothing : Condition := ⟨"A", .last, .or, .range .outside 5.0 2.0⟩

def spread : Vars := Dictionary.ofList [
  ("A", [.number ⟨none, none, some (-0.0), none⟩, .number ⟨none, none, some 3.0, none⟩])]

theorem execute_loosened_spread :
    List.Forall₂ Condition.Loosened
      [aboveZero, { outsideNothing with evaluator := .range .outside 4.0 3.5 }]
      [{ aboveZero with evaluator := .threshold .gt (-0.0) }, outsideNothing] ∧
    ∃ n m : Number,
      execute ⟨"", [aboveZero, { outsideNothing with evaluator := .range .outside 4.0 3.5 }]⟩
        .newYear2024 spread = [.number n] ∧
      execute ⟨"", [{ aboveZero with evaluator := .threshold .gt (-0.0) }, outsideNothing]⟩
        .newYear2024 spread = [.number m] ∧
      n.value = some 1.0 ∧ m.value = some 1.0 := by
  obtain ⟨hcommands, htests⟩ := execute_loosened "" .newYear2024 .newYear2024
  have hconditions : List.Forall₂ Condition.Loosened
      [aboveZero, { outsideNothing with evaluator := .range .outside 4.0 3.5 }]
      [{ aboveZero with evaluator := .threshold .gt (-0.0) }, outsideNothing] :=
    .cons ⟨rfl, rfl, rfl, htests _ _ (.gt (by decide))⟩
      (.cons ⟨rfl, rfl, rfl, htests _ _ (.outside (by decide) (by decide))⟩ .nil)
  obtain ⟨n, m, hn, hm, -, hfiring, -⟩ := hcommands _ _ hconditions spread
  have hvalue : n.value = some 1.0 := by
    cases hn
    decide
  exact ⟨hconditions, n, m, hn, hm, hvalue, hfiring hvalue⟩

end Command
end Alerting
