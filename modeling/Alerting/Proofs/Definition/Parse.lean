import Alerting.Definition.Parse
import Alerting.Proofs.Fallible
import Mathlib.Data.List.Forall2
import Mathlib.Tactic.MkIffOfInductiveProp

/-!
# Successful readings of definitions

The index of a condition is only for refusals. A definition that is accepted gives
one condition for each stored one, whatever else stands in the list.
-/
namespace Alerting.Definition
open Fallible

/-- The parts of a stored condition name all that `c` has. -/
@[mk_iff]
structure ConditionPart.Gives (p : ConditionPart) (c : Condition) : Prop where
  input : p.query.params.head? = some c.input
  named : c.input ≠ ""
  reducer : Tagged.ofTag? p.reducer.type = some c.reducer
  operator : (p.operator.bind OperatorPart.type).elim (some .and) Tagged.ofTag? = some c.operator
  evaluator : Evaluator.ofParams p.evaluator.type p.evaluator.params = .ok c.evaluator

theorem filter_isEmpty_eq_some {o : Option String} {s : String} :
    o.filter (!·.isEmpty) = some s ↔ o = some s ∧ s ≠ "" := by
  simp [Option.filter_eq_some_iff]

theorem ConditionPart.condition_eq_ok {index : Nat} {p : ConditionPart} {c : Condition} :
    p.condition index = .ok c ↔ p.Gives c := by
  obtain ⟨input, reducer, operator, evaluator⟩ := c
  rw [condition, gives_iff, ← and_assoc, ← filter_isEmpty_eq_some]
  cases p.query.params.head?.filter (!·.isEmpty) with
  | none => simp
  | some id =>
    cases (Tagged.ofTag? p.reducer.type : Option Reducer) with
    | none => simp
    | some r =>
      cases p.operator.bind OperatorPart.type with
      | none => cases Evaluator.ofParams p.evaluator.type p.evaluator.params <;> simp
      | some tag =>
        cases htag : (Tagged.ofTag? tag : Option Operator) with
        | none => simp [htag]
        | some o =>
          cases Evaluator.ofParams p.evaluator.type p.evaluator.params <;> simp [htag]

theorem parseCondition_eq_ok {index : Nat} {raw : Json} {c : Condition} :
    parseCondition index raw = .ok c ↔ ∃ p, ConditionPart.read raw = .ok p ∧ p.Gives c := by
  simp only [parseCondition, bind_eq_ok, mapError_eq_ok, ConditionPart.condition_eq_ok]

theorem parseConditions_eq_ok {index : Nat} {raws : List Json} {cs : List Condition} :
    parseConditions index raws = .ok cs ↔
      List.Forall₂ (fun raw c => ∃ p, ConditionPart.read raw = .ok p ∧ p.Gives c) raws cs := by
  induction raws generalizing index cs with
  | nil => cases cs <;> simp [parseConditions]
  | cons raw raws ih =>
    cases cs <;> simp [parseConditions, bind_eq_ok, parseCondition_eq_ok, ih]

/-- Of the elements with a property that a list has there is a first one. -/
theorem exists_first {α : Type} {P : α → Prop} {xs : List α} (h : ∃ x ∈ xs, P x) :
    ∃ before x after, xs = before ++ x :: after ∧ (∀ b ∈ before, ¬P b) ∧ P x := by
  classical
  obtain ⟨x, hfind⟩ : ∃ x, xs.find? (fun x => P x) = some x := by
    rw [← Option.isSome_iff_exists, List.find?_isSome]
    simpa using h
  obtain ⟨hx, before, after, rfl, hbefore⟩ := List.find?_eq_some_iff_append.mp hfind
  exact ⟨before, x, after, rfl, by simpa using hbefore, by simpa using hx⟩

/-- The refusal of a condition is that of the list when all conditions before it are accepted. -/
theorem parseConditions_error {index : Nat} {before after : List Json} {raw : Json} {fault : Fault}
    (hbefore : ∀ b ∈ before, ∃ p, ConditionPart.read b = .ok p ∧ ∃ c, p.Gives c)
    (hraw : parseCondition (index + before.length) raw = .error fault) :
    parseConditions index (before ++ raw :: after) = .error fault := by
  induction before generalizing index with
  | nil =>
    rw [List.length_nil, Nat.add_zero] at hraw
    rw [List.nil_append, parseConditions, hraw, error_bind]
  | cons b before ih =>
    obtain ⟨p, hp, c, hc⟩ := hbefore b List.mem_cons_self
    have hb : parseCondition index b = .ok c := parseCondition_eq_ok.mpr ⟨p, hp, hc⟩
    have hindex : index + 1 + before.length = index + (b :: before).length := by
      rw [List.length_cons]
      omega
    rw [List.cons_append, parseConditions, hb, ok_bind,
      ih (fun d hd => hbefore d (List.mem_cons_of_mem b hd)) (hindex ▸ hraw), error_bind]

theorem ofJson_eq_ok {raw : Json} {refId : String} {cmd : Command} :
    ofJson raw refId = .ok cmd ↔ cmd.refId = refId ∧ ∃ d, Outline.read raw = .ok d ∧
      List.Forall₂ (fun raw c => ∃ p, ConditionPart.read raw = .ok p ∧ p.Gives c)
        d.conditions cmd.conditions := by
  simp only [ofJson, bind_eq_ok, mapError_eq_ok, parseConditions_eq_ok, pure_eq, Except.ok.injEq]
  constructor
  · rintro ⟨d, hd, conditions, hconditions, rfl⟩
    exact ⟨rfl, d, hd, hconditions⟩
  · rintro ⟨rfl, d, hd, hconditions⟩
    exact ⟨d, hd, _, hconditions, rfl⟩

end Alerting.Definition
