import Alerting.Proofs.Command.Verdict
import Alerting.Proofs.Condition.Outcome
import Alerting.Proofs.Report

/-!
# Verdicts as inputs of other commands

A condition that tests whether a verdict is above zero fires exactly when the verdict does. It can
stand for the beginning of a chain, because the chain goes on from two flags that the verdict keeps.
Only a firing flag beside missing data is lost.
-/
namespace Alerting

/-- The test of the verdict under a reference ID. -/
def Condition.ofVerdict (id : String) (r : Reducer) (op : Operator) : Condition :=
  ⟨id, r, op, .threshold .gt 0.0⟩

namespace Condition

variable (c : Condition)

theorem firing_number (n : Number) :
    (c.outcome [.number n]).firing = n.value.any c.evaluator.holds := by
  rw [outcome_firing, evidence_eq]
  cases hx : n.value with
  | none => simp [hit?, Reducer.reduceValue, hx]
  | some x =>
    by_cases hholds : c.evaluator.holds x = true <;>
      simp [hit?, Reducer.reduceValue, hx, hholds, Option.filter_some]

theorem noData_number (n : Number) : (c.outcome [.number n]).noData = n.value.isNone := by
  rw [outcome_noData, isEmpty_reduced]
  cases hx : n.value <;> simp [Reducer.reduceValue, hx]

/-- A condition without data does not fire. -/
theorem firing_eq_false {vars : Vars} (h : (c.evaluate vars).noData = true) :
    (c.evaluate vars).firing = false := by
  rw [evaluate, outcome_noData, List.isEmpty_iff] at h
  rw [evaluate, outcome_firing, evidence, h]
  rfl

/-- A condition does not look at the batches of other inputs. -/
theorem evaluate_insert {vars : Vars} {id : String} (h : c.input ≠ id) (batch : Batch) :
    c.evaluate (vars.insert id batch) = c.evaluate vars := by
  rw [evaluate, evaluate, Dictionary.get?_insert, if_neg h.symm]

end Condition

namespace Command

variable (cmd : Command) (now : Time.Instant) (vars : Vars)

theorem ofNumber_verdict : Verdict.ofNumber (cmd.verdict now vars) =
    if cmd.hasNoData vars then .noData else if cmd.isFiring vars then .firing else .ok := by
  rw [Verdict.ofNumber, verdict_value]
  cases cmd.hasNoData vars <;> cases cmd.isFiring vars <;> rfl

/-! ## Chains that go on -/

theorem chain_append {flags : List (Operator × Bool)} (hne : flags ≠ [])
    (rest : List (Operator × Bool)) :
    chain (flags ++ rest) =
      rest.foldl (fun flag (op, next) => op.apply flag next) (chain flags) := by
  obtain ⟨head, flags, rfl⟩ := List.exists_cons_of_ne_nil hne
  rw [List.cons_append, chain, chain, List.foldl_append]

/-- Flags that all join by `and` are true together. -/
theorem chain_of_and {flags : List (Operator × Bool)} (hne : flags ≠ [])
    (h : ∀ f ∈ flags.tail, f.1 = Operator.and) : chain flags = true ↔ ∀ f ∈ flags, f.2 = true := by
  obtain ⟨⟨op, first⟩, flags, rfl⟩ := List.exists_cons_of_ne_nil hne
  rw [List.tail_cons] at h
  have hrevives : ¬Revives flags := by
    rintro ⟨k, hk, -⟩
    exact absurd (h _ (List.mem_of_getElem? hk)) (by simp)
  have hholds : Holds flags ↔ ∀ f ∈ flags, f.2 = true := by
    constructor
    · rintro hholds ⟨op', flag⟩ hf
      obtain rfl : op' = .and := h _ hf
      cases flag with
      | true => rfl
      | false => exact absurd hf hholds
    · exact fun hall hmem => absurd (hall _ hmem) Bool.false_ne_true
  rw [chain, foldl_apply_iff, or_iff_left hrevives, hholds, List.forall_mem_cons]

/-- A chain without data whose conditions join by `and` does not fire. -/
theorem isFiring_eq_false (hne : cmd.conditions ≠ [])
    (hand : ∀ c ∈ cmd.conditions.tail, c.operator = .and) (hno : cmd.hasNoData vars = true) :
    cmd.isFiring vars = false := by
  have hflags (x : Outcome → Bool) : chain (cmd.flags vars x) = true ↔
      ∀ c ∈ cmd.conditions, x (c.evaluate vars) = true := by
    rw [chain_of_and, flags, List.forall_mem_map]
    · simpa [flags] using hne
    · rw [flags, ← List.map_tail, List.forall_mem_map]
      exact hand
  rw [hasNoData_eq, hflags] at hno
  rw [← Bool.not_eq_true, isFiring_eq, hflags]
  intro hall
  obtain ⟨c, hc⟩ := List.exists_mem_of_ne_nil _ hne
  exact absurd (hall c hc) (by simp [c.firing_eq_false (hno c hc)])

/-! ## Verdicts of verdicts -/

/-- The test of a number with the value of a verdict keeps both flags of the verdict, but it does
not fire without data. -/
theorem evaluate_ofVerdict {n : Number} (hn : n.value = (cmd.verdict now vars).value) {w : Vars}
    {id : String} (hw : w.get? id = some [.number n]) (r : Reducer) (op : Operator) :
    ((Condition.ofVerdict id r op).evaluate w).firing =
        (cmd.isFiring vars && !cmd.hasNoData vars) ∧
      ((Condition.ofVerdict id r op).evaluate w).noData = cmd.hasNoData vars := by
  have hbatch : (Condition.ofVerdict id r op).evaluate w =
      (Condition.ofVerdict id r op).outcome [.number n] := by
    have hinput : (Condition.ofVerdict id r op).input = id := rfl
    rw [Condition.evaluate, hinput, hw, Option.getD_some]
  have htest : (Condition.ofVerdict id r op).evaluator = .threshold .gt 0.0 := rfl
  rw [hbatch, Condition.firing_number, Condition.noData_number, hn, verdict_value, htest]
  cases cmd.hasNoData vars <;> cases cmd.isFiring vars <;> exact ⟨by decide, rfl⟩

/-- The test of a verdict goes on as the chain of the conditions behind the verdict, if it has the
same flag. -/
theorem chain_nested {id : String} {rest : List Condition} (hne : cmd.conditions ≠ [])
    (hrest : ∀ c ∈ rest, c.input ≠ id) (batch : Batch) (test : Condition) (refId : String)
    (x : Outcome → Bool)
    (htest : x (test.evaluate (vars.insert id batch)) = chain (cmd.flags vars x)) :
    chain (flags ⟨refId, test :: rest⟩ (vars.insert id batch) x) =
      chain (flags ⟨refId, cmd.conditions ++ rest⟩ vars x) := by
  have hflags : cmd.flags vars x ≠ [] := by simpa [flags] using hne
  have htail : rest.map (fun c => (c.operator, x (c.evaluate (vars.insert id batch)))) =
      rest.map fun c => (c.operator, x (c.evaluate vars)) := by
    refine List.map_congr_left fun c hc => ?_
    rw [c.evaluate_insert (hrest c hc)]
  calc chain (flags ⟨refId, test :: rest⟩ (vars.insert id batch) x)
      = (rest.map fun c => (c.operator, x (c.evaluate (vars.insert id batch)))).foldl
          (fun flag (op, next) => op.apply flag next)
          (x (test.evaluate (vars.insert id batch))) := rfl
    _ = (rest.map fun c => (c.operator, x (c.evaluate vars))).foldl
          (fun flag (op, next) => op.apply flag next) (chain (cmd.flags vars x)) := by
        rw [htail, htest]
    _ = chain (cmd.flags vars x ++ rest.map fun c => (c.operator, x (c.evaluate vars))) :=
        (chain_append hflags _).symm
    _ = chain (flags ⟨refId, cmd.conditions ++ rest⟩ vars x) := by
        rw [flags, flags, List.map_append]

/-- Missing data hides a firing flag. The flag is kept if there is data, and also if the conditions
join by `and`, because then it is not set without data. -/
theorem firing_kept (hne : cmd.conditions ≠ [])
    (hkept : Verdict.ofNumber (cmd.verdict now vars) ≠ .noData ∨
      ∀ c ∈ cmd.conditions.tail, c.operator = .and) :
    (cmd.isFiring vars && !cmd.hasNoData vars) = cmd.isFiring vars := by
  cases hno : cmd.hasNoData vars with
  | false => simp
  | true =>
    rw [ofNumber_verdict, hno] at hkept
    have hand := hkept.resolve_left fun h => h rfl
    rw [cmd.isFiring_eq_false vars hne hand hno]
    rfl

/-- A verdict can be given to other commands, as it is or as its document reads back. The test of it
fires when the verdict does and has no data when the verdict has none. At the beginning of a chain
it stands for the conditions behind the verdict, unless these join by `or` and lack data. -/
theorem execute_nested (id : String) :
    (∃ decoded, Json.readText Batch.read (Report.document (cmd.execute now vars)) = .ok decoded ∧
      ∀ batch, batch = cmd.execute now vars ∨ batch = decoded →
      ∀ (w : Vars) (r : Reducer) (op : Operator), w.get? id = some batch →
        (((Condition.ofVerdict id r op).evaluate w).firing = true ↔
          Verdict.ofNumber (cmd.verdict now vars) = .firing) ∧
        (((Condition.ofVerdict id r op).evaluate w).noData = true ↔
          Verdict.ofNumber (cmd.verdict now vars) = .noData)) ∧
    ∀ rest : List Condition, cmd.conditions ≠ [] → (∀ c ∈ rest, c.input ≠ id) →
      (Verdict.ofNumber (cmd.verdict now vars) ≠ .noData ∨
        ∀ c ∈ cmd.conditions.tail, c.operator = .and) →
      ∀ (r : Reducer) (op : Operator) (refId refId' : String) (later later' : Time.Instant),
        (verdict ⟨refId, Condition.ofVerdict id r op :: rest⟩ later
            (vars.insert id (cmd.execute now vars))).value =
          (verdict ⟨refId', cmd.conditions ++ rest⟩ later' vars).value := by
  refine ⟨⟨_, Batch.readText_document _, ?_⟩, ?_⟩
  · intro batch hbatch w r op hw
    obtain ⟨n, rfl, hn⟩ : ∃ n : Number, batch = [.number n] ∧
        n.value = (cmd.verdict now vars).value := by
      rcases hbatch with rfl | rfl
      · exact ⟨_, rfl, rfl⟩
      · exact ⟨_, rfl, cmd.stored_verdict_value now vars⟩
    obtain ⟨hfiring, hnoData⟩ := cmd.evaluate_ofVerdict now vars hn hw r op
    rw [hfiring, hnoData, ofNumber_verdict]
    cases cmd.hasNoData vars <;> cases cmd.isFiring vars <;> decide
  · intro rest hne hrest hkept r op refId refId' later later'
    have hw : (vars.insert id (cmd.execute now vars)).get? id =
        some [.number (cmd.verdict now vars)] := by
      rw [Dictionary.get?_insert, if_pos rfl]
      rfl
    obtain ⟨hfiring, hnoData⟩ := cmd.evaluate_ofVerdict now vars rfl hw r op
    have hchain (x : Outcome → Bool)
        (htest : x ((Condition.ofVerdict id r op).evaluate
          (vars.insert id (cmd.execute now vars))) = chain (cmd.flags vars x)) :
        chain (flags ⟨refId, Condition.ofVerdict id r op :: rest⟩
            (vars.insert id (cmd.execute now vars)) x) =
          chain (flags ⟨refId', cmd.conditions ++ rest⟩ vars x) :=
      cmd.chain_nested vars hne hrest _ _ refId x htest
    rw [verdict_value, verdict_value, hasNoData_eq, isFiring_eq, hasNoData_eq, isFiring_eq,
      hchain Outcome.noData (by rw [hnoData, hasNoData_eq]),
      hchain Outcome.firing (by rw [hfiring, cmd.firing_kept now vars hne hkept, isFiring_eq])]

/-! A flag that missing data hides may come forth again later in the chain, where the test of the
verdict has lost it. -/

example :
    let missing : Condition := ⟨"A", .last, .and, .threshold .gt 0.0⟩
    let firing : Condition := ⟨"B", .last, .or, .threshold .gt 0.0⟩
    let more : Condition := ⟨"B", .last, .and, .threshold .gt 0.0⟩
    let vars : Vars := Dictionary.empty.insert "B" [.number ⟨none, none, some 1.0, none⟩]
    let verdictVars := vars.insert "X" (execute ⟨"", [missing, firing]⟩ .newYear2024 vars)
    (verdict ⟨"", [missing, firing, more]⟩ .newYear2024 vars).value = some 1.0 ∧
      (verdict ⟨"", [.ofVerdict "X" .last .and, more]⟩ .newYear2024 verdictVars).value =
        some 0.0 := by
  decide

end Command
end Alerting
