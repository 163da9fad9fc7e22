import Alerting.Proofs.Command.Verdict
import Alerting.Proofs.Condition.Outcome
import Alerting.Proofs.Dictionary
import Mathlib.Data.List.Perm.Basic

/-!
# The order of values and of conditions

The flags of a condition do not depend on the order of its batch, which only shows in the order of
the evidence. The same is true of conditions that all have one operator, because the first of them
starts the chain as if it joined the flag that the operator leaves alone.
-/
namespace Alerting

/-! ## Chains of one operator -/

namespace Operator

variable (op : Operator)

/-- The flag that changes no flag which it is joined with. -/
def neutral : Operator → Bool
  | and => true
  | or => false

theorem apply_neutral (x : Bool) : op.apply op.neutral x = x := by
  cases op <;> rfl

instance : Std.Associative op.apply where
  assoc x y z := by cases op <;> cases x <;> rfl

instance : Std.Commutative op.apply where
  comm x y := by cases op <;> cases x <;> cases y <;> rfl

end Operator

namespace Command

variable {op : Operator} {flags flags' : List (Operator × Bool)}

theorem foldl_apply_of_operator (h : ∀ f ∈ flags, f.1 = op) (first : Bool) :
    flags.foldl (fun flag (op, next) => op.apply flag next) first =
      (flags.map Prod.snd).foldl op.apply first := by
  induction flags generalizing first with
  | nil => rfl
  | cons f flags ih =>
    obtain ⟨rfl, hrest⟩ := List.forall_mem_cons.mp h
    exact ih hrest _

/-- The first flag, whose operator is not used, may as well join the neutral flag. -/
theorem chain_of_operator (hne : flags ≠ []) (h : ∀ f ∈ flags, f.1 = op) :
    chain flags = (flags.map Prod.snd).foldl op.apply op.neutral := by
  obtain ⟨⟨op', first⟩, flags, rfl⟩ := List.exists_cons_of_ne_nil hne
  rw [chain, foldl_apply_of_operator (List.forall_mem_cons.mp h).2, List.map_cons,
    List.foldl_cons, op.apply_neutral]

theorem chain_perm (h : ∀ f ∈ flags, f.1 = op) (hp : flags.Perm flags') :
    chain flags = chain flags' := by
  by_cases hne : flags = []
  · subst hne
    rw [List.nil_perm.mp hp]
  · have hne' : flags' ≠ [] := fun hnil => hne (List.perm_nil.mp (hnil ▸ hp))
    have h' : ∀ f ∈ flags', f.1 = op := fun f hf => h f (hp.mem_iff.mpr hf)
    rw [chain_of_operator hne h, chain_of_operator hne' h']
    exact (hp.map Prod.snd).foldl_op_eq

end Command

/-! ## Batches -/

/-- The batches have the same values, in any order. A missing batch is an empty one. -/
def Vars.Rearranged (v w : Vars) : Prop :=
  ∀ id, ((v.get? id).getD []).Perm ((w.get? id).getD [])

namespace Condition

variable (c : Condition)

section
variable {batch batch' : Batch} (h : batch.Perm batch')
include h

theorem reduced_perm : (c.reduced batch).Perm (c.reduced batch') := h.filterMap _

theorem evidence_perm : (c.evidence batch).Perm (c.evidence batch') :=
  ((c.reduced_perm h).filter _).map _

end

variable {v w : Vars} (h : v.Rearranged w)
include h

theorem noData_of_rearranged : (c.evaluate v).noData = (c.evaluate w).noData := by
  simp only [evaluate, outcome_noData]
  exact (c.reduced_perm (h c.input)).isEmpty_eq

theorem firing_of_rearranged : (c.evaluate v).firing = (c.evaluate w).firing := by
  simp only [evaluate, outcome_firing, (c.evidence_perm (h c.input)).isEmpty_eq]

theorem evidence_of_rearranged : (c.evaluate v).evidence.Perm (c.evaluate w).evidence := by
  simp only [evaluate, outcome_evidence]
  exact c.evidence_perm (h c.input)

end Condition

/-! ## Verdicts -/

/-- The numbers say the same, with the entries of their evidence in any order. -/
structure Number.Rearranged (n m : Number) : Prop where
  name : n.name = m.name
  labels : n.labels = m.labels
  value : n.value = m.value
  evidence : ∃ before after, n.evidence = some before ∧ m.evidence = some after ∧
    before.Perm after

namespace Command

/-- Verdicts on the same flags and the same evidence differ in order only. -/
theorem verdict_rearranged (refId : String) {cs ds : List Condition} {v w : Vars}
    (hnoData : hasNoData ⟨refId, cs⟩ v = hasNoData ⟨refId, ds⟩ w)
    (hfiring : isFiring ⟨refId, cs⟩ v = isFiring ⟨refId, ds⟩ w)
    (hevidence : (cs.flatMap fun c => (c.evaluate v).evidence).Perm
      (ds.flatMap fun c => (c.evaluate w).evidence)) (now later : Time.Instant) :
    (verdict ⟨refId, cs⟩ now v).Rearranged (verdict ⟨refId, ds⟩ later w) := by
  refine ⟨?_, ?_, ?_, _, _, verdict_evidence .., verdict_evidence .., ?_⟩
  · rw [verdict_name, verdict_name]
  · rw [verdict_labels, verdict_labels]
  · rw [verdict_value, verdict_value, hnoData, hfiring]
  · rw [hnoData]
    cases hasNoData ⟨refId, ds⟩ w with
    | true => exact .refl _
    | false => exact hevidence

theorem verdict_of_rearranged (refId : String) (cs : List Condition) {v w : Vars}
    (h : v.Rearranged w) (now later : Time.Instant) :
    (verdict ⟨refId, cs⟩ now v).Rearranged (verdict ⟨refId, cs⟩ later w) := by
  apply verdict_rearranged
  · simp only [hasNoData_eq, flags, Condition.noData_of_rearranged _ h]
  · simp only [isFiring_eq, flags, Condition.firing_of_rearranged _ h]
  · exact List.Perm.flatMap_left _ fun c _ => c.evidence_of_rearranged h

theorem verdict_of_perm (refId : String) {op : Operator} {cs ds : List Condition}
    (hop : ∀ c ∈ cs, c.operator = op) (hp : cs.Perm ds) (vars : Vars) (now later : Time.Instant) :
    (verdict ⟨refId, cs⟩ now vars).Rearranged (verdict ⟨refId, ds⟩ later vars) := by
  have hchain (x : Outcome → Bool) :
      chain (flags ⟨refId, cs⟩ vars x) = chain (flags ⟨refId, ds⟩ vars x) :=
    chain_perm (List.forall_mem_map.mpr hop) (hp.map _)
  apply verdict_rearranged
  · rw [hasNoData_eq, hasNoData_eq, hchain]
  · rw [isFiring_eq, isFiring_eq, hchain]
  · exact hp.flatMap_right _

/-- The order of the values in a batch makes no difference to a verdict but for the order of its
evidence, and neither does the order of conditions that all have one operator. -/
theorem execute_rearranged (cmd : Command) (now later : Time.Instant) :
    (∀ v w : Vars, v.Rearranged w → ∃ n m : Number, cmd.execute now v = [.number n] ∧
      cmd.execute later w = [.number m] ∧ n.Rearranged m) ∧
    ∀ (op : Operator) (cs : List Condition), (∀ c ∈ cmd.conditions, c.operator = op) →
      cmd.conditions.Perm cs → ∀ vars : Vars, ∃ n m : Number,
        cmd.execute now vars = [.number n] ∧
        execute ⟨cmd.refId, cs⟩ later vars = [.number m] ∧ n.Rearranged m := by
  constructor
  · intro v w h
    exact ⟨_, _, rfl, rfl, verdict_of_rearranged cmd.refId cmd.conditions h now later⟩
  · intro op cs hop hp vars
    exact ⟨_, _, rfl, rfl, verdict_of_perm cmd.refId hop hp vars now later⟩

/-! Two hosts and two alternative conditions, each in both orders. -/

def busyHost : Value := .number ⟨some "busy", none, some 5.0, none⟩

def idleHost : Value := .number ⟨some "idle", none, some 2.0, none⟩

def highLoad : Condition := ⟨"load", .avg, .or, .threshold .gt 1.0⟩

def extremeLoad : Condition := ⟨"load", .max, .or, .threshold .gt 4.0⟩

def hosts (batch : Batch) : Vars := Dictionary.ofList [("load", batch)]

theorem hosts_rearranged {batch batch' : Batch} (h : batch.Perm batch') :
    (hosts batch).Rearranged (hosts batch') := by
  intro id
  rw [hosts, hosts, Dictionary.get?_ofList_singleton, Dictionary.get?_ofList_singleton]
  split
  · exact h
  · exact .refl _

theorem execute_rearranged_hosts :
    (hosts [busyHost, idleHost]).Rearranged (hosts [idleHost, busyHost]) ∧
    (∃ n m : Number,
      execute ⟨"", [highLoad, extremeLoad]⟩ .newYear2024 (hosts [busyHost, idleHost]) =
        [.number n] ∧
      execute ⟨"", [highLoad, extremeLoad]⟩ .newYear2024 (hosts [idleHost, busyHost]) =
        [.number m] ∧
      n.Rearranged m ∧ n.evidence ≠ m.evidence) ∧
    ∃ n m : Number,
      execute ⟨"", [highLoad, extremeLoad]⟩ .newYear2024 (hosts [busyHost, idleHost]) =
        [.number n] ∧
      execute ⟨"", [extremeLoad, highLoad]⟩ .newYear2024 (hosts [busyHost, idleHost]) =
        [.number m] ∧
      n.Rearranged m ∧ n.evidence ≠ m.evidence := by
  have hbatch := hosts_rearranged (.swap idleHost busyHost [])
  obtain ⟨hvalues, hconditions⟩ :=
    execute_rearranged ⟨"", [highLoad, extremeLoad]⟩ .newYear2024 .newYear2024
  obtain ⟨n, m, hn, hm, hvalues⟩ := hvalues _ _ hbatch
  obtain ⟨n', m', hn', hm', hconditions⟩ := hconditions .or [extremeLoad, highLoad] (by decide)
    (.swap extremeLoad highLoad []) (hosts [busyHost, idleHost])
  refine ⟨hbatch, ⟨n, m, hn, hm, hvalues, ?_⟩, n', m', hn', hm', hconditions, ?_⟩
  · cases hn
    cases hm
    decide
  · cases hn'
    cases hm'
    decide

end Command
end Alerting
