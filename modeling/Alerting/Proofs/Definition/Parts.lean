import Alerting.Definition.Parts
import Alerting.Proofs.Json.Field

/-!
# The parts of a stored definition by their fields

Each part is a record whose fields are read one by one. Some fields have to be
there and the others have a value that stands for their absence.
-/
namespace Alerting.Definition
open Json Fallible

namespace Outline

theorem independent_slots : @Independent Form slots where
  filled := by
    simp only [slots, List.forall_mem_cons]
    exact ⟨Slot.isFilled_of_fill fun _ _ => rfl, by simp⟩
  apart := List.pairwise_singleton _ _

theorem fillFields_slots {field : String → Option Json} {s : Form} :
    fillFields field slots ⟨none⟩ = .ok s ↔
      readField (readList .ok) (field "conditions") = .ok s.conditions := by
  obtain ⟨conditions⟩ := s
  simp [slots, fillFields_nil, Readable.json,
    fillFields_of (fun o (s : Form) => { s with conditions := o }) fun _ _ => rfl]

theorem read_eq_ok (raw : Json) (d : Outline) :
    read raw = .ok d ↔ IsRecord ["conditions"] raw ∧
      Given (readList .ok) (field? ["conditions"] raw "conditions") d.conditions := by
  rw [read, readRecord_eq_ok independent_slots (by simp [slots, Slot.of])
    (by simp +contextual [slots, Slot.of, Form.finish, bind_eq_ok, required_eq_ok])]
  apply and_congr_right'
  simp only [fillFields_slots, Form.finish, bind_eq_ok, required_eq_ok, ← readField_eq_some]
  obtain ⟨conditions⟩ := d
  constructor
  · rintro ⟨s, hconditions, _, hs, ⟨rfl⟩⟩
    exact hs ▸ hconditions
  · intro hconditions
    exact ⟨⟨some conditions⟩, hconditions, conditions, rfl, rfl⟩

end Outline

namespace EvaluatorPart

theorem independent_slots : @Independent Form slots where
  filled := by
    simp only [slots, List.forall_mem_cons]
    exact ⟨Slot.isFilled_of_fill fun _ _ => rfl, Slot.isFilled_of_fill fun _ _ => rfl, by simp⟩
  apart := by simp [slots, Slot.apart_of]

theorem fillFields_slots {field : String → Option Json} {s : Form} :
    fillFields field slots ⟨none, none⟩ = .ok s ↔
      readField readString (field "type") = .ok s.type ∧
      readField (readList readFloat) (field "params") = .ok s.params := by
  obtain ⟨type, params⟩ := s
  simp [slots, fillFields_nil,
    fillFields_of (fun o (s : Form) => { s with type := o }) fun _ _ => rfl,
    fillFields_of (fun o (s : Form) => { s with params := o }) fun _ _ => rfl]

theorem read_eq_ok (raw : Json) (p : EvaluatorPart) :
    read raw = .ok p ↔ IsRecord ["type", "params"] raw ∧
      Given readString (field? ["type", "params"] raw "type") p.type ∧
      GivenOr [] (readList readFloat) (field? ["type", "params"] raw "params") p.params := by
  rw [read, readRecord_eq_ok independent_slots (by simp [slots, Slot.of])
    (by simp +contextual [slots, Slot.of, Form.finish, bind_eq_ok, required_eq_ok])]
  apply and_congr_right'
  simp only [fillFields_slots, Form.finish, bind_eq_ok, required_eq_ok, ← readField_eq_some,
    ← readField_getD]
  obtain ⟨type, params⟩ := p
  constructor
  · rintro ⟨s, ⟨htype, hparams⟩, _, hs, ⟨rfl⟩⟩
    exact ⟨hs ▸ htype, _, hparams, rfl⟩
  · rintro ⟨htype, o, hparams, rfl⟩
    exact ⟨⟨some type, o⟩, ⟨htype, hparams⟩, type, rfl, rfl⟩

end EvaluatorPart

namespace OperatorPart

theorem independent_slots : @Independent Form slots where
  filled := by
    simp only [slots, List.forall_mem_cons]
    exact ⟨Slot.isFilled_of_fill fun _ _ => rfl, by simp⟩
  apart := List.pairwise_singleton _ _

theorem fillFields_slots {field : String → Option Json} {s : Form} :
    fillFields field slots ⟨none⟩ = .ok s ↔
      readField (readOption readString) (field "type") = .ok s.type := by
  obtain ⟨type⟩ := s
  simp [slots, fillFields_nil,
    fillFields_of (fun o (s : Form) => { s with type := o }) fun _ _ => rfl]

theorem read_eq_ok (raw : Json) (p : OperatorPart) :
    read raw = .ok p ↔ IsRecord ["type"] raw ∧
      GivenOr none (readOption readString) (field? ["type"] raw "type") p.type := by
  rw [read, readRecord_eq_ok independent_slots (by simp [slots, Slot.of])
    (by simp [slots, Slot.of])]
  apply and_congr_right'
  simp only [fillFields_slots, Form.finish, ← readField_join]
  obtain ⟨type⟩ := p
  constructor
  · rintro ⟨s, htype, ⟨rfl⟩⟩
    exact ⟨_, htype, rfl⟩
  · rintro ⟨o, htype, rfl⟩
    exact ⟨⟨o⟩, htype, rfl⟩

end OperatorPart

namespace QueryPart

theorem independent_slots : @Independent Form slots where
  filled := by
    simp only [slots, List.forall_mem_cons]
    exact ⟨Slot.isFilled_of_fill fun _ _ => rfl, by simp⟩
  apart := List.pairwise_singleton _ _

theorem fillFields_slots {field : String → Option Json} {s : Form} :
    fillFields field slots ⟨none⟩ = .ok s ↔
      readField (readList readString) (field "params") = .ok s.params := by
  obtain ⟨params⟩ := s
  simp [slots, fillFields_nil,
    fillFields_of (fun o (s : Form) => { s with params := o }) fun _ _ => rfl]

theorem read_eq_ok (raw : Json) (p : QueryPart) :
    read raw = .ok p ↔ IsRecord ["params"] raw ∧
      GivenOr [] (readList readString) (field? ["params"] raw "params") p.params := by
  rw [read, readRecord_eq_ok independent_slots (by simp [slots, Slot.of])
    (by simp [slots, Slot.of])]
  apply and_congr_right'
  simp only [fillFields_slots, Form.finish, ← readField_getD]
  obtain ⟨params⟩ := p
  constructor
  · rintro ⟨s, hparams, ⟨rfl⟩⟩
    exact ⟨_, hparams, rfl⟩
  · rintro ⟨o, hparams, rfl⟩
    exact ⟨⟨o⟩, hparams, rfl⟩

end QueryPart

namespace ReducerPart

theorem independent_slots : @Independent Form slots where
  filled := by
    simp only [slots, List.forall_mem_cons]
    exact ⟨Slot.isFilled_of_fill fun _ _ => rfl, Slot.isFilled_of_fill fun _ _ => rfl, by simp⟩
  apart := by simp [slots, Slot.apart_of]

theorem fillFields_slots {field : String → Option Json} {s : Form} :
    fillFields field slots ⟨none, none⟩ = .ok s ↔
      readField readString (field "type") = .ok s.type ∧
      readField (readList .ok) (field "params") = .ok s.params := by
  obtain ⟨type, params⟩ := s
  simp [slots, fillFields_nil, Readable.json,
    fillFields_of (fun o (s : Form) => { s with type := o }) fun _ _ => rfl,
    fillFields_of (fun o (s : Form) => { s with params := o }) fun _ _ => rfl]

theorem read_eq_ok (raw : Json) (p : ReducerPart) :
    read raw = .ok p ↔ IsRecord ["type", "params"] raw ∧
      Given readString (field? ["type", "params"] raw "type") p.type ∧
      GivenOr [] (readList .ok) (field? ["type", "params"] raw "params") p.params := by
  rw [read, readRecord_eq_ok independent_slots (by simp [slots, Slot.of])
    (by simp +contextual [slots, Slot.of, Form.finish, bind_eq_ok, required_eq_ok])]
  apply and_congr_right'
  simp only [fillFields_slots, Form.finish, bind_eq_ok, required_eq_ok, ← readField_eq_some,
    ← readField_getD]
  obtain ⟨type, params⟩ := p
  constructor
  · rintro ⟨s, ⟨htype, hparams⟩, _, hs, ⟨rfl⟩⟩
    exact ⟨hs ▸ htype, _, hparams, rfl⟩
  · rintro ⟨htype, o, hparams, rfl⟩
    exact ⟨⟨some type, o⟩, ⟨htype, hparams⟩, type, rfl, rfl⟩

end ReducerPart

namespace ConditionPart

def names : List String := ["evaluator", "operator", "query", "reducer", "type"]

theorem independent_slots : @Independent Form slots where
  filled := by
    simp only [slots, List.forall_mem_cons]
    exact ⟨Slot.isFilled_of_fill fun _ _ => rfl, Slot.isFilled_of_fill fun _ _ => rfl,
      Slot.isFilled_of_fill fun _ _ => rfl, Slot.isFilled_of_fill fun _ _ => rfl,
      Slot.isFilled_of_fill fun _ _ => rfl, by simp⟩
  apart := by simp [slots, Slot.apart_of]

theorem fillFields_slots {field : String → Option Json} {s : Form} :
    fillFields field slots ⟨none, none, none, none, none⟩ = .ok s ↔
      readField EvaluatorPart.read (field "evaluator") = .ok s.evaluator ∧
      readField (readOption OperatorPart.read) (field "operator") = .ok s.operator ∧
      readField QueryPart.read (field "query") = .ok s.query ∧
      readField ReducerPart.read (field "reducer") = .ok s.reducer ∧
      readField (readOption readString) (field "type") = .ok s.type := by
  obtain ⟨evaluator, operator, query, reducer, type⟩ := s
  simp only [slots, fillFields_nil,
    fillFields_of (fun o (s : Form) => { s with evaluator := o }) fun _ _ => rfl,
    fillFields_of (fun o (s : Form) => { s with operator := o }) fun _ _ => rfl,
    fillFields_of (fun o (s : Form) => { s with query := o }) fun _ _ => rfl,
    fillFields_of (fun o (s : Form) => { s with reducer := o }) fun _ _ => rfl,
    fillFields_of (fun o (s : Form) => { s with type := o }) fun _ _ => rfl, Form.mk.injEq]
  constructor
  · rintro ⟨_, hevaluator, _, hoperator, _, hquery, _, hreducer, _, htype, rfl, rfl, rfl, rfl, rfl⟩
    exact ⟨hevaluator, hoperator, hquery, hreducer, htype⟩
  · rintro ⟨hevaluator, hoperator, hquery, hreducer, htype⟩
    exact ⟨_, hevaluator, _, hoperator, _, hquery, _, hreducer, _, htype, rfl, rfl, rfl, rfl, rfl⟩

theorem read_eq_ok (raw : Json) (p : ConditionPart) :
    read raw = .ok p ↔ IsRecord names raw ∧
      Given EvaluatorPart.read (field? names raw "evaluator") p.evaluator ∧
      GivenOr none (readOption OperatorPart.read) (field? names raw "operator") p.operator ∧
      Given QueryPart.read (field? names raw "query") p.query ∧
      Given ReducerPart.read (field? names raw "reducer") p.reducer ∧
      GivenOr none (readOption readString) (field? names raw "type") p.type := by
  rw [read, readRecord_eq_ok independent_slots (by simp [slots, Slot.of])
    (by simp +contextual [slots, Slot.of, Form.finish, bind_eq_ok, required_eq_ok])]
  apply and_congr_right'
  simp only [fillFields_slots, Form.finish, bind_eq_ok, required_eq_ok, ← readField_eq_some,
    ← readField_join]
  obtain ⟨evaluator, operator, query, reducer, type⟩ := p
  constructor
  · rintro ⟨s, ⟨hevaluator, hoperator, hquery, hreducer, htype⟩, _, he, _, hq, _, hr, ⟨rfl⟩⟩
    exact ⟨he ▸ hevaluator, ⟨_, hoperator, rfl⟩, hq ▸ hquery, hr ▸ hreducer, _, htype, rfl⟩
  · rintro ⟨hevaluator, ⟨o, hoperator, rfl⟩, hquery, hreducer, o', htype, rfl⟩
    exact ⟨⟨some evaluator, o, some query, some reducer, o'⟩,
      ⟨hevaluator, hoperator, hquery, hreducer, htype⟩, evaluator, rfl, query, rfl, reducer, rfl,
      rfl⟩

end ConditionPart

end Alerting.Definition
