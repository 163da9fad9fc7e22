import Alerting.Proofs.Definition.Parse
import Alerting.Proofs.Definition.Parts
import Alerting.Proofs.Tag

/-!
# The grammar of definitions

A definition is accepted exactly when it has the shape that is described here, in
terms of the values that may stand in each field.
-/
namespace Alerting.Definition
open Json Fallible

/-- A tag with as many numbers as it needs. -/
def IsEvaluator (raw : Json) : Prop :=
  IsRecord ["type", "params"] raw ∧
  ∃ (tag : String) (numbers : List Numeral),
    field? ["type", "params"] raw "type" = some (.text tag) ∧
    field? ["type", "params"] raw "params" = some (.list (numbers.map .number)) ∧
    (tag ∈ ["gt", "lt", "ge", "le", "eq", "ne"] ∧ 1 ≤ numbers.length ∨
      tag ∈ ["within_range", "outside_range"] ∧ 2 ≤ numbers.length)

/-- A record whose type, if it says any, is one of the two operators. -/
def IsOperator (raw : Json) : Prop :=
  IsRecord ["type"] raw ∧
  ∀ v, field? ["type"] raw "type" = some v → v = .null ∨ v = .text "and" ∨ v = .text "or"

/-- Texts, the first of which is the reference ID of a query. -/
def IsQuery (raw : Json) : Prop :=
  IsRecord ["params"] raw ∧
  ∃ input rest, field? ["params"] raw "params" = some (.list ((input :: rest).map .text)) ∧
    input ≠ ""

/-- The tag of a reducer, with any list of parameters. -/
def IsReducer (raw : Json) : Prop :=
  IsRecord ["type", "params"] raw ∧
  (∃ tag ∈ ["avg", "sum", "min", "max", "count", "count_non_null", "last", "median", "diff",
      "diff_abs", "percent_diff", "percent_diff_abs"],
    field? ["type", "params"] raw "type" = some (.text tag)) ∧
  ∀ v, field? ["type", "params"] raw "params" = some v → ∃ items, v = .list items

/-- A condition, whose operator and type may be left out or null. -/
def IsCondition (raw : Json) : Prop :=
  let field := field? ["evaluator", "operator", "query", "reducer", "type"] raw
  IsRecord ["evaluator", "operator", "query", "reducer", "type"] raw ∧
  (∃ v, field "evaluator" = some v ∧ IsEvaluator v) ∧
  (∀ v, field "operator" = some v → v = .null ∨ IsOperator v) ∧
  (∃ v, field "query" = some v ∧ IsQuery v) ∧
  (∃ v, field "reducer" = some v ∧ IsReducer v) ∧
  ∀ v, field "type" = some v → v = .null ∨ ∃ s, v = .text s

def IsDefinition (raw : Json) : Prop :=
  IsRecord ["conditions"] raw ∧
  ∃ items, field? ["conditions"] raw "conditions" = some (.list items) ∧
    ∀ c ∈ items, IsCondition c

/-- A list of four or five items is a condition by the order of its items. -/
theorem isCondition_list {items : List Json} :
    IsCondition (.list items) ↔ ∃ evaluator operator query reducer rest,
      items = evaluator :: operator :: query :: reducer :: rest ∧ IsEvaluator evaluator ∧
      (operator = .null ∨ IsOperator operator) ∧ IsQuery query ∧ IsReducer reducer ∧
      (rest = [] ∨ rest = [.null] ∨ ∃ s, rest = [.text s]) := by
  rcases items with _ | ⟨e, _ | ⟨o, _ | ⟨q, _ | ⟨r, _ | ⟨t, _ | ⟨u, rest⟩⟩⟩⟩⟩⟩ <;>
    simp [IsCondition, IsRecord, field?, List.lookup_cons]

theorem isDefinition_list {items : List Json} :
    IsDefinition (.list items) ↔ ∃ conditions, items = [.list conditions] ∧
      ∀ c ∈ conditions, IsCondition c := by
  rcases items with _ | ⟨c, _ | ⟨d, rest⟩⟩ <;> simp [IsDefinition, IsRecord, field?]

/-! ## The parts of a condition -/

theorem exists_ofParams {tag : String} {params : List Float} :
    (∃ e, Evaluator.ofParams tag params = .ok e) ↔
      (tag ∈ ["gt", "lt", "ge", "le", "eq", "ne"] ∧ 1 ≤ params.length ∨
        tag ∈ ["within_range", "outside_range"] ∧ 2 ≤ params.length) := by
  have hcomparison : (∃ c : Comparison, Tagged.ofTag? tag = some c) ↔
      tag ∈ ["gt", "lt", "ge", "le", "eq", "ne"] := Tagged.exists_ofTag?
  have hside : (∃ s : RangeSide, Tagged.ofTag? tag = some s) ↔
      tag ∈ ["within_range", "outside_range"] := Tagged.exists_ofTag?
  have hapart : ∀ tag ∈ ["gt", "lt", "ge", "le", "eq", "ne"],
      tag ∉ ["within_range", "outside_range"] := by decide
  rw [Evaluator.ofParams]
  cases hc : (Tagged.ofTag? tag : Option Comparison) with
  | some c =>
    have htag := hcomparison.mp ⟨c, hc⟩
    simp only [htag, hapart tag htag, true_and, false_and, or_false]
    cases params <;> simp
  | none =>
    have hnot : tag ∉ ["gt", "lt", "ge", "le", "eq", "ne"] := by simp [← hcomparison, hc]
    simp only [hnot, ← hside, false_and, false_or]
    cases hs : (Tagged.ofTag? tag : Option RangeSide) with
    | none => simp
    | some s => rcases params with _ | ⟨lower, _ | ⟨upper, rest⟩⟩ <;> simp

/-- What an optional field may hold when null counts as absence. -/
theorem exists_optional {β : Type} {read : Json → Except Json.Fault β} {field : Option Json}
    {P : Option β → Prop} (hnone : P none) :
    (∃ o, GivenOr none (readOption read) field o ∧ P o) ↔
      ∀ v, field = some v → v = .null ∨ ∃ b, read v = .ok b ∧ P (some b) := by
  cases field with
  | none => simpa [GivenOr, Given] using hnone
  | some v =>
    by_cases hv : v = .null
    · simpa [GivenOr, Given, readOption_eq_ok, hv] using hnone
    · simp [GivenOr, Given, readOption_eq_ok, hv]

theorem exists_evaluator {raw : Json} :
    (∃ p e, EvaluatorPart.read raw = .ok p ∧ Evaluator.ofParams p.type p.params = .ok e) ↔
      IsEvaluator raw := by
  simp only [exists_and_left, exists_ofParams, EvaluatorPart.read_eq_ok, Given, GivenOr,
    readString_eq_ok, readList_readFloat_eq_ok]
  constructor
  · rintro ⟨⟨tag, params⟩, ⟨hrecord, ⟨_, htag, rfl⟩, hparams⟩, haccepts⟩
    refine ⟨hrecord, tag, ?_⟩
    rcases hparams with ⟨-, rfl⟩ | ⟨_, hparams, numbers, rfl, rfl⟩
    · simp at haccepts
    · exact ⟨numbers, htag, hparams, by simpa using haccepts⟩
  · rintro ⟨hrecord, tag, numbers, htag, hparams, haccepts⟩
    refine ⟨⟨tag, numbers.map Numeral.toFloat⟩, ⟨hrecord, ⟨_, htag, rfl⟩, ?_⟩, ?_⟩
    · exact .inr ⟨_, hparams, numbers, rfl, rfl⟩
    · simpa using haccepts

theorem exists_operator {raw : Json} :
    (∃ p, OperatorPart.read raw = .ok p ∧
      ∃ op, p.type.elim (some Operator.and) Tagged.ofTag? = some op) ↔ IsOperator raw := by
  have hoperators : Tagged.tags Operator = ["and", "or"] := rfl
  have hfield (field : Option Json) :
      (∃ o, GivenOr none (readOption readString) field o ∧
        ∃ op, o.elim (some Operator.and) Tagged.ofTag? = some op) ↔
        ∀ v, field = some v → v = .null ∨ v = .text "and" ∨ v = .text "or" := by
    rw [exists_optional ⟨_, rfl⟩]
    apply forall₂_congr
    intro v _
    apply or_congr_right
    simp only [Option.elim, Tagged.exists_ofTag?, hoperators, readString_eq_ok, List.mem_cons,
      List.not_mem_nil, or_false]
    constructor
    · rintro ⟨_, rfl, rfl | rfl⟩
      · exact .inl rfl
      · exact .inr rfl
    · rintro (rfl | rfl)
      · exact ⟨_, rfl, .inl rfl⟩
      · exact ⟨_, rfl, .inr rfl⟩
  simp only [OperatorPart.read_eq_ok, IsOperator, ← hfield]
  constructor
  · rintro ⟨⟨type⟩, ⟨hrecord, htype⟩, haccepts⟩
    exact ⟨hrecord, type, htype, haccepts⟩
  · rintro ⟨hrecord, type, htype, haccepts⟩
    exact ⟨⟨type⟩, ⟨hrecord, htype⟩, haccepts⟩

theorem exists_operator? {field : Option Json} :
    (∃ o, GivenOr none (readOption OperatorPart.read) field o ∧
      ∃ op, (o.bind OperatorPart.type).elim (some Operator.and) Tagged.ofTag? = some op) ↔
      ∀ v, field = some v → v = .null ∨ IsOperator v := by
  rw [exists_optional ⟨_, rfl⟩]
  simp only [← exists_operator, Option.bind_some]

theorem exists_type? {field : Option Json} :
    (∃ t, GivenOr none (readOption readString) field t) ↔
      ∀ v, field = some v → v = .null ∨ ∃ s, v = .text s := by
  have htype := @exists_optional _ readString field (fun _ => True) trivial
  simpa only [and_true, readString_eq_ok] using htype

theorem exists_query {raw : Json} :
    (∃ p id, QueryPart.read raw = .ok p ∧ p.params.head? = some id ∧ id ≠ "") ↔ IsQuery raw := by
  simp only [QueryPart.read_eq_ok, Given, GivenOr, readList_readString_eq_ok]
  constructor
  · rintro ⟨⟨params⟩, input, ⟨hrecord, hparams⟩, hhead, hnamed⟩
    obtain ⟨rest, rfl⟩ : ∃ rest, params = input :: rest := List.head?_eq_some_iff.mp hhead
    rcases hparams with ⟨-, hparams⟩ | ⟨_, hparams, rfl⟩
    · cases hparams
    · exact ⟨hrecord, input, rest, hparams, hnamed⟩
  · rintro ⟨hrecord, input, rest, hparams, hnamed⟩
    exact ⟨⟨input :: rest⟩, input, ⟨hrecord, .inr ⟨_, hparams, rfl⟩⟩, rfl, hnamed⟩

theorem exists_reducer {raw : Json} :
    (∃ p, ∃ r : Reducer, ReducerPart.read raw = .ok p ∧ Tagged.ofTag? p.type = some r) ↔
      IsReducer raw := by
  simp only [exists_and_left, Tagged.exists_ofTag?, ReducerPart.read_eq_ok, Given, GivenOr,
    readString_eq_ok, readList_ok_eq_ok]
  constructor
  · rintro ⟨⟨tag, params⟩, ⟨hrecord, ⟨_, htag, rfl⟩, hparams⟩, haccepts⟩
    refine ⟨hrecord, ⟨tag, haccepts, htag⟩, ?_⟩
    rcases hparams with ⟨hparams, -⟩ | ⟨_, hparams, rfl⟩
    · simp [hparams]
    · simp [hparams]
  · rintro ⟨hrecord, ⟨tag, haccepts, htag⟩, hparams⟩
    cases hfield : field? ["type", "params"] raw "params" with
    | none => exact ⟨⟨tag, []⟩, ⟨hrecord, ⟨_, htag, rfl⟩, .inl ⟨rfl, rfl⟩⟩, haccepts⟩
    | some v =>
      obtain ⟨items, rfl⟩ := hparams v hfield
      exact ⟨⟨tag, items⟩, ⟨hrecord, ⟨_, htag, rfl⟩, .inr ⟨_, rfl, rfl⟩⟩, haccepts⟩

theorem exists_condition {raw : Json} :
    (∃ c p, ConditionPart.read raw = .ok p ∧ p.Gives c) ↔ IsCondition raw := by
  simp only [ConditionPart.read_eq_ok, ConditionPart.gives_iff, Given, IsCondition,
    ← exists_evaluator, ← exists_operator?, ← exists_query, ← exists_reducer, ← exists_type?]
  constructor
  · rintro ⟨c, p, ⟨hrecord, ⟨_, hv, hevaluator⟩, hoperator, ⟨_, hw, hquery⟩, ⟨_, hz, hreducer⟩,
      htype⟩, hinput, hnamed, hr, ho, he⟩
    exact ⟨hrecord, ⟨_, hv, _, _, hevaluator, he⟩, ⟨_, hoperator, _, ho⟩,
      ⟨_, hw, _, _, hquery, hinput, hnamed⟩, ⟨_, hz, _, _, hreducer, hr⟩, _, htype⟩
  · rintro ⟨hrecord, ⟨_, hv, evaluator, e, hevaluator, he⟩, ⟨operator, hoperator, o, ho⟩,
      ⟨_, hw, query, input, hquery, hinput, hnamed⟩, ⟨_, hz, reducer, r, hreducer, hr⟩, type, htype⟩
    exact ⟨⟨input, r, o, e⟩, ⟨evaluator, operator, query, reducer, type⟩,
      ⟨hrecord, ⟨_, hv, hevaluator⟩, hoperator, ⟨_, hw, hquery⟩, ⟨_, hz, hreducer⟩, htype⟩,
      hinput, hnamed, hr, ho, he⟩

/-! ## Definitions -/

theorem exists_forall₂ {α β : Type} {R : α → β → Prop} {xs : List α} :
    (∃ ys, List.Forall₂ R xs ys) ↔ ∀ x ∈ xs, ∃ y, R x y := by
  induction xs with
  | nil => simp
  | cons x xs ih =>
    rw [List.forall_mem_cons, ← ih]
    constructor
    · rintro ⟨_, hx | ⟨hx, hxs⟩⟩
      exact ⟨⟨_, hx⟩, _, hxs⟩
    · rintro ⟨⟨y, hx⟩, ys, hxs⟩
      exact ⟨y :: ys, .cons hx hxs⟩

/-- A value is accepted as a definition exactly when it has the shape of one. -/
theorem ofJson_accepts (raw : Json) (refId : String) :
    (∃ cmd, ofJson raw refId = .ok cmd) ↔ IsDefinition raw := by
  simp only [ofJson_eq_ok, Outline.read_eq_ok, Given, readList_ok_eq_ok, IsDefinition,
    ← exists_condition, ← exists_forall₂]
  constructor
  · rintro ⟨cmd, -, d, ⟨hrecord, _, hfield, rfl⟩, hconditions⟩
    exact ⟨hrecord, _, hfield, _, hconditions⟩
  · rintro ⟨hrecord, items, hfield, conditions, hconditions⟩
    exact ⟨⟨refId, conditions⟩, rfl, ⟨items⟩, ⟨hrecord, _, hfield, rfl⟩, hconditions⟩

end Alerting.Definition
