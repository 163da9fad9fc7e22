import Alerting.Proofs.Command.Verdict
import Alerting.Proofs.Condition.Outcome
import Mathlib.Data.List.Forall2

/-!
# Where evidence comes from

Every entry of evidence belongs to a condition and a value of the batch that it reads, and every
value whose number passes the test of a condition has its entry. The marker of missing data is never
one of them, because an entry of this kind has a number.
-/
namespace Alerting

/-- An entry that was made from a value: it has the number of the value, which passes the test of
the condition, and the name and labels of the value. -/
structure Condition.Supports (c : Condition) (v : Value) (e : Evidence) : Prop where
  value : ∃ x, e.value = some x ∧ c.reducer.reduceValue v = some x ∧ c.evaluator.holds x = true
  metric : e.metric = v.name
  labels : e.labels = v.labels

namespace Condition

variable {c : Condition} {v : Value} {e : Evidence}

def passes (c : Condition) (v : Value) : Bool := (c.reducer.reduceValue v).any c.evaluator.holds

theorem hit?_eq_some : c.hit? v = some e ↔ c.Supports v e := by
  simp only [hit?, Option.map_eq_some_iff, Option.filter_eq_some_iff]
  constructor
  · rintro ⟨x, ⟨hx, hholds⟩, rfl⟩
    exact ⟨⟨x, rfl, hx, hholds⟩, rfl, rfl⟩
  · rintro ⟨⟨x, hvalue, hx, hholds⟩, hmetric, hlabels⟩
    refine ⟨x, ⟨hx, hholds⟩, ?_⟩
    rw [evidenceOf, ← hvalue, ← hmetric, ← hlabels]

theorem isSome_hit? : (c.hit? v).isSome = c.passes v := by
  rw [hit?, Option.isSome_map, passes]
  cases hx : c.reducer.reduceValue v with
  | none => rfl
  | some x => by_cases hholds : c.evaluator.holds x = true <;> simp [Option.filter_some, hholds]

theorem Supports.isNoData (h : c.Supports v e) : e.isNoData = false := by
  obtain ⟨x, hvalue, -⟩ := h.value
  simp [Evidence.isNoData, hvalue]

end Condition

/-- What `filterMap` keeps, beside what it makes of it. -/
theorem forall₂_filterMap {α β : Type} (f : α → Option β) (xs : List α) :
    List.Forall₂ (fun x y => f x = some y) (xs.filter fun x => (f x).isSome) (xs.filterMap f) := by
  induction xs with
  | nil => exact .nil
  | cons x xs ih =>
    cases hx : f x with
    | none => simpa [hx] using ih
    | some y => simpa [hx] using ih

namespace Command

variable (cmd : Command) (now : Time.Instant) (vars : Vars)

/-- Every condition with every value of the batch that it reads. -/
def readings : List (Condition × Value) :=
  cmd.conditions.flatMap fun c => ((vars.get? c.input).getD []).map fun v => (c, v)

theorem mem_readings {c : Condition} {v : Value} :
    (c, v) ∈ cmd.readings vars ↔ c ∈ cmd.conditions ∧ v ∈ (vars.get? c.input).getD [] := by
  simp only [readings, List.mem_flatMap, List.mem_map, Prod.mk.injEq]
  constructor
  · rintro ⟨c', hc, v', hv, rfl, rfl⟩
    exact ⟨hc, hv⟩
  · rintro ⟨hc, hv⟩
    exact ⟨c, hc, v, hv, rfl, rfl⟩

theorem flatMap_evidence : (cmd.conditions.flatMap fun c => (c.evaluate vars).evidence) =
    (cmd.readings vars).filterMap fun r => r.1.hit? r.2 := by
  rw [readings, List.filterMap_flatMap]
  congr 1
  funext c
  rw [List.filterMap_map, Condition.evaluate, Condition.outcome_evidence, Condition.evidence_eq]
  rfl

/-- A chain fires only if one of its conditions does. -/
theorem exists_of_isFiring (h : cmd.isFiring vars = true) :
    ∃ c ∈ cmd.conditions, (c.evaluate vars).firing = true := by
  rw [isFiring_eq, chain_eq_true_iff] at h
  obtain ⟨k, op, hk, -⟩ := h
  obtain ⟨c, hc, hflag⟩ := List.mem_map.mp (List.mem_of_getElem? hk)
  exact ⟨c, hc, congrArg Prod.snd hflag⟩

theorem evidence_ne_nil (h : cmd.isFiring vars = true) :
    (cmd.conditions.flatMap fun c => (c.evaluate vars).evidence) ≠ [] := by
  obtain ⟨c, hc, hfiring⟩ := cmd.exists_of_isFiring vars h
  rw [Condition.evaluate, Condition.outcome_firing, Bool.not_eq_true', List.isEmpty_eq_false_iff,
    ← Condition.outcome_evidence] at hfiring
  exact fun hnil => hfiring (List.flatMap_eq_nil_iff.mp hnil c hc)

theorem exists_supports {e : Evidence}
    (h : e ∈ (cmd.readings vars).filterMap fun r => r.1.hit? r.2) :
    ∃ c ∈ cmd.conditions, ∃ v ∈ (vars.get? c.input).getD [], c.Supports v e := by
  obtain ⟨⟨c, v⟩, hr, hhit⟩ := List.mem_filterMap.mp h
  obtain ⟨hc, hv⟩ := (cmd.mem_readings vars).mp hr
  exact ⟨c, hc, v, hv, Condition.hit?_eq_some.mp hhit⟩

/-- A verdict with data has an entry for each value that passes the test of a condition that reads
it, once for each condition, and no other entries. So a firing verdict has evidence, and only a
verdict without data has the marker, as its one entry. -/
theorem execute_evidence : ∃ (n : Number) (es : List Evidence),
    cmd.execute now vars = [.number n] ∧ n.evidence = some es ∧
    (n.value = some 1.0 → es ≠ []) ∧
    (n.value ≠ none →
      (∀ e ∈ es, ∃ c ∈ cmd.conditions, ∃ v ∈ (vars.get? c.input).getD [], c.Supports v e) ∧
      List.Forall₂ (fun r e => r.1.Supports r.2 e)
        ((cmd.readings vars).filter fun r => r.1.passes r.2) es ∧
      es.length = (cmd.readings vars).countP fun r => r.1.passes r.2) ∧
    (n.value = none ↔ ∃ e ∈ es, e.isNoData = true) ∧
    (n.value = none ↔ es = [Evidence.noData]) := by
  refine ⟨cmd.verdict now vars, _, cmd.execute_eq now vars, cmd.verdict_evidence now vars, ?_⟩
  simp only [verdict_value_eq_one, verdict_value_eq_none, ne_eq, flatMap_evidence]
  by_cases hno : cmd.hasNoData vars = true
  · have hmarker : Evidence.noData.isNoData = true := by decide
    simp [hno, hmarker]
  · have hdata : ∀ e ∈ (cmd.readings vars).filterMap fun r => r.1.hit? r.2,
        ¬e.isNoData = true := by
      intro e he
      obtain ⟨c, -, v, -, hsupports⟩ := cmd.exists_supports vars he
      simp [hsupports.isNoData]
    rw [if_neg hno]
    refine ⟨fun h => ?_, fun _ => ⟨?_, ?_, ?_⟩, ?_, ?_⟩
    · exact cmd.flatMap_evidence vars ▸ cmd.evidence_ne_nil vars h.2
    · exact fun e he => cmd.exists_supports vars he
    · have hpairs := forall₂_filterMap (fun r : Condition × Value => r.1.hit? r.2)
        (cmd.readings vars)
      simp only [Condition.isSome_hit?] at hpairs
      exact hpairs.imp fun r e h => Condition.hit?_eq_some.mp h
    · rw [List.length_filterMap_eq_countP]
      simp only [Condition.isSome_hit?]
    · refine iff_of_false hno ?_
      rintro ⟨e, he, hmarker⟩
      exact hdata e he hmarker
    · refine iff_of_false hno fun hes => ?_
      exact hdata Evidence.noData (hes ▸ List.mem_singleton_self _) (by decide)

end Command
end Alerting
