import Alerting.Proofs.Command.Verdict
import Alerting.Proofs.Condition.Outcome
import Mathlib.Data.List.Forall2
import Mathlib.Tactic.ByContra

/-!
# More data keeps an alert firing

A batch with more values has more numbers and more evidence. Firing flags can
then only rise and flags of no data only fall, and both kinds of joining respect
the order of flags.
-/
namespace Alerting

/-! ## Chains -/

/-- Flags with the same operators, of which none falls. -/
abbrev Command.Below : List (Operator × Bool) → List (Operator × Bool) → Prop :=
  List.Forall₂ fun a b => a.1 = b.1 ∧ (a.2 = true → b.2 = true)

theorem Operator.apply_mono (op : Operator) {x x' y y' : Bool} (hx : x = true → x' = true)
    (hy : y = true → y' = true) (h : op.apply x y = true) : op.apply x' y' = true := by
  cases op with
  | and =>
    rw [apply, Bool.and_eq_true] at h ⊢
    exact ⟨hx h.1, hy h.2⟩
  | or =>
    rw [apply, Bool.or_eq_true] at h ⊢
    exact h.imp hx hy

theorem Command.foldl_apply_mono {flags flags' : List (Operator × Bool)} (h : Below flags flags')
    {first first' : Bool} (hfirst : first = true → first' = true)
    (hc : flags.foldl (fun flag (op, next) => op.apply flag next) first = true) :
    flags'.foldl (fun flag (op, next) => op.apply flag next) first' = true := by
  induction h generalizing first first' with
  | nil => exact hfirst hc
  | @cons a b _ _ hhead _ ih =>
    obtain ⟨op, x⟩ := a
    obtain ⟨op', y⟩ := b
    obtain ⟨hop : op = op', hxy⟩ := hhead
    subst hop
    exact ih (op.apply_mono hfirst hxy) hc

theorem Command.chain_mono {flags flags' : List (Operator × Bool)} (h : Below flags flags')
    (hc : chain flags = true) : chain flags' = true := by
  cases h with
  | nil => exact hc
  | cons hhead htail => exact foldl_apply_mono htail hhead.2 hc

/-! ## Batches -/

namespace Condition

variable (c : Condition)

theorem reduced_sublist {batch more : Batch} (h : batch.Sublist more) :
    (c.reduced batch).Sublist (c.reduced more) := h.filterMap _

theorem evidence_sublist {batch more : Batch} (h : batch.Sublist more) :
    (c.evidence batch).Sublist (c.evidence more) := ((c.reduced_sublist h).filter _).map _

end Condition

theorem isEmpty_of_sublist {α : Type} {xs ys : List α} (h : xs.Sublist ys)
    (hys : ys.isEmpty = true) : xs.isEmpty = true := by
  rw [List.isEmpty_iff] at hys ⊢
  exact List.sublist_nil.mp (hys ▸ h)

/-! ## Vars -/

/-- Every batch is there again, with values added at any places. -/
def Vars.Within (v w : Vars) : Prop :=
  ∀ id batch, v.get? id = some batch → ∃ more, w.get? id = some more ∧ batch.Sublist more

theorem Vars.Within.batch {v w : Vars} (h : v.Within w) (id : String) :
    ((v.get? id).getD []).Sublist ((w.get? id).getD []) := by
  cases hv : v.get? id with
  | none => exact List.nil_sublist _
  | some batch =>
    obtain ⟨more, hw, hsub⟩ := h id batch hv
    rw [hw]
    exact hsub

namespace Condition

variable (c : Condition) {v w : Vars}

theorem evaluate_evidence_sublist (h : v.Within w) :
    (c.evaluate v).evidence.Sublist (c.evaluate w).evidence := by
  simp only [evaluate, outcome_evidence]
  exact c.evidence_sublist (h.batch c.input)

theorem firing_of_within (h : v.Within w) (hv : (c.evaluate v).firing = true) :
    (c.evaluate w).firing = true := by
  simp only [evaluate, outcome_firing, Bool.not_eq_true'] at hv ⊢
  rw [← Bool.not_eq_true] at hv ⊢
  exact mt (isEmpty_of_sublist (c.evidence_sublist (h.batch c.input))) hv

theorem noData_of_within (h : v.Within w) (hw : (c.evaluate w).noData = true) :
    (c.evaluate v).noData = true := by
  simp only [evaluate, outcome_noData] at hw ⊢
  exact isEmpty_of_sublist (c.reduced_sublist (h.batch c.input)) hw

end Condition

namespace Command

variable (cmd : Command) {v w : Vars}

theorem isFiring_of_within (h : v.Within w) (hv : cmd.isFiring v = true) :
    cmd.isFiring w = true := by
  rw [isFiring_eq] at hv ⊢
  refine chain_mono ?_ hv
  rw [Below, flags, flags, List.forall₂_map_left_iff, List.forall₂_map_right_iff, List.forall₂_same]
  exact fun c _ => ⟨rfl, c.firing_of_within h⟩

theorem hasNoData_of_within (h : v.Within w) (hw : cmd.hasNoData w = true) :
    cmd.hasNoData v = true := by
  rw [hasNoData_eq] at hw ⊢
  refine chain_mono ?_ hw
  rw [Below, flags, flags, List.forall₂_map_left_iff, List.forall₂_map_right_iff, List.forall₂_same]
  exact fun c _ => ⟨rfl, c.noData_of_within h⟩

theorem evidence_of_within (h : v.Within w) (cs : List Condition) :
    (cs.flatMap fun c => (c.evaluate v).evidence).Sublist
      (cs.flatMap fun c => (c.evaluate w).evidence) := by
  induction cs with
  | nil => exact List.nil_sublist _
  | cons c cs ih =>
    rw [List.flatMap_cons, List.flatMap_cons]
    exact (c.evaluate_evidence_sublist h).append ih

/-- A verdict stays firing when data is added, it never turns into no data, and its evidence
stays in place. -/
theorem execute_mono (h : v.Within w) (now later : Time.Instant) :
    ∃ n m : Number, cmd.execute now v = [.number n] ∧ cmd.execute later w = [.number m] ∧
      (n.value = some 1.0 → m.value = some 1.0) ∧
      (m.value = none → n.value = none) ∧
      (n.value ≠ none → ∃ before after, n.evidence = some before ∧ m.evidence = some after ∧
        before.Sublist after) := by
  refine ⟨cmd.verdict now v, cmd.verdict later w, rfl, rfl, ?_, ?_, ?_⟩
  · rw [verdict_value_eq_one, verdict_value_eq_one]
    exact fun ⟨hdata, hfiring⟩ =>
      ⟨mt (cmd.hasNoData_of_within h) hdata, cmd.isFiring_of_within h hfiring⟩
  · rw [verdict_value_eq_none, verdict_value_eq_none]
    exact cmd.hasNoData_of_within h
  · intro hvalue
    have hv : ¬cmd.hasNoData v = true := mt (cmd.verdict_value_eq_none now v).mpr hvalue
    have hw : ¬cmd.hasNoData w = true := mt (cmd.hasNoData_of_within h) hv
    refine ⟨_, _, verdict_evidence .., verdict_evidence .., ?_⟩
    rw [if_neg hv, if_neg hw]
    exact evidence_of_within h cmd.conditions

/-! An alert on one reading still fires when a null, a lower reading and another batch arrive. -/

def loadAlert : Command := ⟨"", [⟨"load", .avg, .and, .threshold .gt 1.0⟩]⟩

def oneReading : Vars := Dictionary.ofList [("load", [.number ⟨none, none, some 5.0, none⟩])]

def moreReadings : Vars := Dictionary.ofList [
  ("load", [.noData, .number ⟨none, none, some 5.0, none⟩, .number ⟨none, none, some 0.5, none⟩]),
  ("disk", [])]

theorem oneReading_within : oneReading.Within moreReadings := by
  intro id batch h
  have hid : id = "load" := by
    by_contra hne
    have hnone : oneReading.get? id = none := if_neg (Ne.symm hne)
    rw [hnone] at h
    cases h
  subst hid
  cases h
  exact ⟨_, rfl, .cons _ (.cons_cons _ (List.nil_sublist _))⟩

theorem execute_mono_readings :
    oneReading.Within moreReadings ∧ ∃ n m : Number,
      loadAlert.execute .newYear2024 oneReading = [.number n] ∧
      loadAlert.execute .newYear2024 moreReadings = [.number m] ∧
      n.value = some 1.0 ∧ m.value = some 1.0 := by
  obtain ⟨n, m, hn, hm, hfiring, -, -⟩ :=
    loadAlert.execute_mono oneReading_within .newYear2024 .newYear2024
  have hvalue : n.value = some 1.0 := by
    cases hn
    decide
  exact ⟨oneReading_within, n, m, hn, hm, hvalue, hfiring hvalue⟩

end Command
end Alerting
