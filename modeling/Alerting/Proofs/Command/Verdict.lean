import Alerting.Proofs.Command.Chain

/-!
# The verdict of a command

The chain is taken once for firing and once for no data, and both may be true.
No data comes first and replaces all evidence; otherwise the evidence of every
condition is kept, also of those that the chain passes over.
-/
namespace Alerting.Command

variable (cmd : Command) (now : Time.Instant) (vars : Vars)

/-- A flag of the outcome of each condition, with the operator of the condition. -/
def flags (x : Outcome → Bool) : List (Operator × Bool) :=
  cmd.conditions.map fun c => (c.operator, x (c.evaluate vars))

theorem hasNoData_eq : cmd.hasNoData vars = chain (cmd.flags vars Outcome.noData) := by
  rw [hasNoData, outcomes, List.map_map]
  rfl

theorem isFiring_eq : cmd.isFiring vars = chain (cmd.flags vars Outcome.firing) := by
  rw [isFiring, outcomes, List.map_map]
  rfl

theorem execute_eq : cmd.execute now vars = [.number (cmd.verdict now vars)] := rfl

@[simp] theorem verdict_name :
    (cmd.verdict now vars).name = if cmd.refId = "" then none else some cmd.refId := by
  have hname : (cmd.refId.isEmpty = true) = (cmd.refId = "") := by simp
  cases hno : cmd.hasNoData vars <;> simp only [verdict, hno, hname] <;> rfl

@[simp] theorem verdict_labels : (cmd.verdict now vars).labels = none := by
  cases hno : cmd.hasNoData vars <;> simp only [verdict, hno] <;> rfl

@[simp] theorem verdict_value :
    (cmd.verdict now vars).value =
      if cmd.hasNoData vars then none else some (if cmd.isFiring vars then 1.0 else 0.0) := by
  cases hno : cmd.hasNoData vars <;> simp only [verdict, hno] <;> rfl

@[simp] theorem verdict_evidence :
    (cmd.verdict now vars).evidence =
      some (if cmd.hasNoData vars then [Evidence.noData]
        else cmd.conditions.flatMap fun c => (c.evaluate vars).evidence) := by
  cases hno : cmd.hasNoData vars
  · simp [verdict, hno, outcomes, List.flatMap_map]
  · simp [verdict, hno]

theorem verdict_value_eq_none :
    (cmd.verdict now vars).value = none ↔ cmd.hasNoData vars = true := by
  rw [verdict_value]
  cases cmd.hasNoData vars <;> simp

theorem one_ne_zero : (1.0 : Float) ≠ 0.0 := by decide

theorem verdict_value_eq_one :
    (cmd.verdict now vars).value = some 1.0 ↔
      ¬cmd.hasNoData vars = true ∧ cmd.isFiring vars = true := by
  rw [verdict_value]
  cases cmd.hasNoData vars <;> cases cmd.isFiring vars <;> simp [one_ne_zero.symm]

theorem verdict_value_eq_zero :
    (cmd.verdict now vars).value = some 0.0 ↔
      ¬cmd.hasNoData vars = true ∧ ¬cmd.isFiring vars = true := by
  rw [verdict_value]
  cases cmd.hasNoData vars <;> cases cmd.isFiring vars <;> simp [one_ne_zero]

/-- The operator of the first condition plays no part. -/
theorem verdict_first_operator (refId : String) (c : Condition) (op : Operator)
    (rest : List Condition) :
    verdict ⟨refId, { c with operator := op } :: rest⟩ now vars =
      verdict ⟨refId, c :: rest⟩ now vars := rfl

/-- A command returns one number without labels. Its value and its evidence are the closed forms
of the two chains, and a command without conditions is not firing. -/
theorem execute_closed_form :
    (∃ n : Number, cmd.execute now vars = [.number n] ∧ n.labels = none ∧
      n.name = (if cmd.refId = "" then none else some cmd.refId) ∧
      (n.value = none ↔ Prevails (cmd.flags vars Outcome.noData)) ∧
      (n.value = some 1.0 ↔ ¬Prevails (cmd.flags vars Outcome.noData) ∧
        Prevails (cmd.flags vars Outcome.firing)) ∧
      (n.value = some 0.0 ↔ ¬Prevails (cmd.flags vars Outcome.noData) ∧
        ¬Prevails (cmd.flags vars Outcome.firing)) ∧
      (n.value = none → n.evidence = some [Evidence.noData]) ∧
      (n.value ≠ none →
        n.evidence = some (cmd.conditions.flatMap fun c => (c.evaluate vars).evidence))) ∧
    (∀ c op rest, cmd.conditions = c :: rest →
      execute ⟨cmd.refId, { c with operator := op } :: rest⟩ now vars = cmd.execute now vars) ∧
    (cmd.conditions = [] → ∃ n : Number, cmd.execute now vars = [.number n] ∧
      n.value = some 0.0 ∧ n.evidence = some []) := by
  have hnone := cmd.verdict_value_eq_none now vars
  refine ⟨⟨cmd.verdict now vars, cmd.execute_eq now vars, cmd.verdict_labels now vars,
    cmd.verdict_name now vars, ?_, ?_, ?_, ?_, ?_⟩, ?_, ?_⟩
  · rw [hnone, hasNoData_eq, chain_eq_true_iff]
  · rw [verdict_value_eq_one, hasNoData_eq, isFiring_eq, chain_eq_true_iff, chain_eq_true_iff]
  · rw [verdict_value_eq_zero, hasNoData_eq, isFiring_eq, chain_eq_true_iff, chain_eq_true_iff]
  · intro h
    rw [verdict_evidence, if_pos (hnone.mp h)]
  · intro h
    rw [verdict_evidence, if_neg (mt hnone.mpr h)]
  · intro c op rest hconditions
    obtain ⟨refId, conditions⟩ := cmd
    obtain rfl : conditions = c :: rest := hconditions
    exact congrArg (fun n => [Value.number n]) (verdict_first_operator now vars refId c op rest)
  · intro hempty
    obtain ⟨refId, conditions⟩ := cmd
    obtain rfl : conditions = [] := hempty
    exact ⟨_, rfl, rfl, rfl⟩

end Alerting.Command
