import Alerting.Proofs.Command.Verdict
import Alerting.Proofs.Condition.Outcome
import Mathlib.Data.List.Forall2

/-!
# What a command reads

The listed inputs of a command are all that it reads, each once and in the order of its conditions.
Of the values there it reads the kind, the name, the labels and the scalars; the times of points and
the evidence of numbers play no part.
-/
namespace Alerting

/-! ## Lists without repetitions -/

theorem mem_distinct {x : String} {xs : List String} : x ∈ distinct xs ↔ x ∈ xs := by
  induction xs with
  | nil => simp [distinct]
  | cons y xs ih => by_cases hx : x = y <;> simp [distinct, hx, ih]

/-- The texts are listed in the order of their first places. -/
theorem pairwise_distinct (xs : List String) :
    (distinct xs).Pairwise fun a b => xs.idxOf a < xs.idxOf b := by
  induction xs with
  | nil => simp [distinct]
  | cons x xs ih =>
    have hafter {a : String} (ha : a ≠ x) : (x :: xs).idxOf a = xs.idxOf a + 1 :=
      List.idxOf_cons_ne xs ha.symm
    rw [distinct, List.pairwise_cons]
    constructor
    · intro b hb
      have hne : b ≠ x := by simpa using (List.mem_filter.mp hb).2
      rw [List.idxOf_cons_self, hafter hne]
      exact Nat.succ_pos _
    · refine (ih.filter _).imp_of_mem fun {a b} ha hb hab => ?_
      have hane : a ≠ x := by simpa using (List.mem_filter.mp ha).2
      have hbne : b ≠ x := by simpa using (List.mem_filter.mp hb).2
      rw [hafter hane, hafter hbne]
      exact Nat.succ_lt_succ hab

theorem nodup_distinct (xs : List String) : (distinct xs).Nodup :=
  (pairwise_distinct xs).imp fun {a b} hab heq => by
    subst heq
    exact Nat.lt_irrefl _ hab

/-! ## Values that are read alike -/

/-- Values of one kind with the same name, labels and scalars. -/
def Value.Alike : Value → Value → Prop
  | .series s, .series t =>
    s.name = t.name ∧ s.labels = t.labels ∧ s.points.map Point.value = t.points.map Point.value
  | .number m, .number n => m.name = n.name ∧ m.labels = n.labels ∧ m.value = n.value
  | .noData, .noData => True
  | _, _ => False

abbrev Batch.Alike : Batch → Batch → Prop := List.Forall₂ Value.Alike

namespace Value

variable {v w : Value}

theorem Alike.name (h : v.Alike w) : v.name = w.name := by
  cases v <;> cases w <;> simp_all [Alike, Value.name]

theorem Alike.labels (h : v.Alike w) : v.labels = w.labels := by
  cases v <;> cases w <;> simp_all [Alike, Value.labels]

end Value

theorem Reducer.reduce_congr (r : Reducer) {s t : Series}
    (h : s.points.map Point.value = t.points.map Point.value) : r.reduce s = r.reduce t := by
  have hdoubles (s : Series) : s.doubles = (s.points.map Point.value).filterMap id := by
    rw [List.filterMap_map]
    rfl
  have hlength : s.points.length = t.points.length := by
    simpa using congrArg List.length h
  rw [reduce, reduce, hdoubles, hdoubles, h, hlength]

theorem Reducer.reduceValue_congr (r : Reducer) {v w : Value} (h : v.Alike w) :
    r.reduceValue v = r.reduceValue w := by
  cases v with
  | series s =>
    cases w with
    | series t => exact r.reduce_congr h.2.2
    | _ => exact h.elim
  | number m =>
    cases w with
    | number n => exact h.2.2
    | _ => exact h.elim
  | noData =>
    cases w with
    | noData => rfl
    | _ => exact h.elim

namespace Condition

variable (c : Condition)

theorem hit?_congr {v w : Value} (h : v.Alike w) : c.hit? v = c.hit? w := by
  have hevidence : evidenceOf v = evidenceOf w := by
    funext x
    rw [evidenceOf, evidenceOf, h.name, h.labels]
  rw [hit?, hit?, c.reducer.reduceValue_congr h, hevidence]

theorem outcome_congr {batch batch' : Batch} (h : batch.Alike batch') :
    c.outcome batch = c.outcome batch' := by
  have hfilter {β : Type} {f : Value → Option β} (hf : ∀ v w : Value, v.Alike w → f v = f w) :
      batch.filterMap f = batch'.filterMap f := by
    induction h with
    | nil => rfl
    | cons hv _ ih => simp only [List.filterMap_cons, hf _ _ hv, ih]
  have hevidence : c.evidence batch = c.evidence batch' := by
    rw [evidence_eq, evidence_eq, hfilter fun _ _ => c.hit?_congr]
  have hempty : (c.reduced batch).isEmpty = (c.reduced batch').isEmpty := by
    rw [isEmpty_reduced, isEmpty_reduced, hfilter fun _ _ => c.reducer.reduceValue_congr]
  rw [outcome, outcome, hempty, hevidence]

theorem evaluate_congr {v w : Vars}
    (h : Batch.Alike ((v.get? c.input).getD []) ((w.get? c.input).getD [])) :
    c.evaluate v = c.evaluate w := c.outcome_congr h

end Condition

namespace Command

variable (cmd : Command)

theorem mem_needsVars {id : String} : id ∈ cmd.needsVars ↔ ∃ c ∈ cmd.conditions, c.input = id := by
  rw [needsVars, mem_distinct, List.mem_map]

/-- Outcomes are all that a verdict is made of. -/
theorem verdict_congr {v w : Vars} (h : ∀ c ∈ cmd.conditions, c.evaluate v = c.evaluate w)
    (now later : Time.Instant) : cmd.verdict now v = cmd.verdict later w := by
  have houtcomes : cmd.outcomes v = cmd.outcomes w :=
    List.map_congr_left fun c hc => by rw [h c hc]
  rw [verdict, verdict, hasNoData, hasNoData, isFiring, isFiring, houtcomes]

/-- The listed inputs are those of the conditions, each once, in the order of the conditions. What
is not listed makes no difference to a verdict, and neither does the time. -/
theorem execute_eq_of_alike :
    cmd.needsVars.Nodup ∧
    (∀ id, id ∈ cmd.needsVars ↔ ∃ c ∈ cmd.conditions, c.input = id) ∧
    (cmd.needsVars.Pairwise fun a b =>
      (cmd.conditions.map Condition.input).idxOf a <
        (cmd.conditions.map Condition.input).idxOf b) ∧
    ∀ (v w : Vars) (now later : Time.Instant),
      (∀ id ∈ cmd.needsVars, Batch.Alike ((v.get? id).getD []) ((w.get? id).getD [])) →
      cmd.execute now v = cmd.execute later w := by
  refine ⟨nodup_distinct _, fun id => cmd.mem_needsVars, pairwise_distinct _, ?_⟩
  intro v w now later halike
  have houtcomes : ∀ c ∈ cmd.conditions, c.evaluate v = c.evaluate w := fun c hc =>
    c.evaluate_congr (halike c.input (cmd.mem_needsVars.mpr ⟨c, hc, rfl⟩))
  rw [execute_eq, execute_eq, cmd.verdict_congr houtcomes now later]

end Command
end Alerting
