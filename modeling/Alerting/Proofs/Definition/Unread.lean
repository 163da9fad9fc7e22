import Alerting.Proofs.Definition.Parse
import Alerting.Proofs.Definition.Parts
import Alerting.Proofs.Json.Compact
import Alerting.Proofs.Json.Reordered
import Alerting.Proofs.Json.Unread
import Alerting.Proofs.Tag

/-!
# What the outcome of a definition depends on

Not all of a definition is read. Two definitions that differ only in what is not read give the same
command or are refused for the same fault, and so do two texts that differ only in the order in which
they list members.
-/
namespace Alerting.Definition
open Json Fallible

/-! ## Parts that are not read

Two stored forms are alike if they differ only in what is named here and, wherever there is an
object, in members that are no fields. -/

def needed (tag : String) : Nat :=
  if tag ∈ Tagged.tags Comparison then 1 else if tag ∈ Tagged.tags RangeSide then 2 else 0

/-- How many parameters of a stored evaluator are read. -/
def paramsRead (raw : Json) : Nat :=
  match field? ["type", "params"] raw "type" with
  | some (.text tag) => needed tag
  | _ => 0

/-- Stored evaluators that differ only in numbers that their tag does not need. -/
def EvaluatorAlike (raw raw' : Json) : Prop :=
  RecordAlike ["type", "params"]
    (fun
      | "params", v, w => ListAlike (fun v => ∃ n, v = .number n) (paramsRead raw) v w
      | _, v, w => v = w) raw raw'

/-- Stored operators that do not differ in their type. -/
def OperatorAlike : Json → Json → Prop := RecordAlike ["type"] fun _ v w => v = w

/-- Stored queries that differ only in texts after the first one. -/
def QueryAlike : Json → Json → Prop :=
  RecordAlike ["params"] fun _ v w => ListAlike (fun v => ∃ s, v = .text s) 1 v w

/-- Stored reducers that differ only in the items of their parameters. -/
def ReducerAlike : Json → Json → Prop :=
  RecordAlike ["type", "params"] fun
    | "params", v, w => ListAlike (fun _ => True) 0 v w
    | _, v, w => v = w

/-- Stored conditions that differ only in the text of their type and in what is not read of their
parts. -/
def ConditionAlike : Json → Json → Prop :=
  RecordAlike ConditionPart.names fun
    | "evaluator", v, w => EvaluatorAlike v w
    | "operator", v, w => OperatorAlike v w
    | "query", v, w => QueryAlike v w
    | "reducer", v, w => ReducerAlike v w
    | "type", v, w => v = w ∨ ∃ s s', v = .text s ∧ w = .text s'
    | _, v, w => v = w

/-- Definitions that differ only in what is not read of their conditions. -/
def DefinitionAlike : Json → Json → Prop :=
  RecordAlike ["conditions"] fun _ v w => v = w ∨
    ∃ raws raws', v = .list raws ∧ w = .list raws' ∧ List.Forall₂ ConditionAlike raws raws'

/-! ## Parts -/

namespace EvaluatorPart

/-- The forms have the same type and the same `k` parameters first. -/
def Form.Agree (k : Nat) (s t : Form) : Prop :=
  s.type = t.type ∧ s.params.map (·.take k) = t.params.map (·.take k)

theorem read_take {raw raw' : Json} (h : EvaluatorAlike raw raw') :
    Alike (fun p q => p.type = q.type ∧
      p.params.take (paramsRead raw) = q.params.take (paramsRead raw)) (read raw) (read raw') := by
  refine readRecord_alike (S := Form.Agree (paramsRead raw)) ?_ ⟨rfl, rfl⟩ ?_ (fun _ => ⟨rfl, rfl⟩) h
  · simp only [slots, List.forall_mem_cons]
    refine ⟨Slot.relates_of_eq (fun _ _ hvw => hvw) ?_ ?_,
      Slot.relates_of (T := fun a b => a.take (paramsRead raw) = b.take (paramsRead raw)) ?_ ?_ ?_,
      by simp⟩
    · exact fun s t hst => congrArg Option.isSome hst.1
    · exact fun a s t hst => ⟨rfl, hst.2⟩
    · rintro v w hvw
      refine readList_alike ?_ hvw
      rintro _ ⟨n, rfl⟩
      exact ⟨_, rfl⟩
    · exact fun s t hst => by simpa using congrArg Option.isSome hst.2
    · exact fun a b s t hab hst => ⟨hst.1, congrArg some hab⟩
  · rintro ⟨type, params⟩ ⟨_, params'⟩ ⟨⟨rfl⟩, hparams⟩
    refine (Alike.refl (fun _ => rfl) (required "type" type)).bind ?_
    rintro tag _ rfl
    refine .ok ⟨rfl, ?_⟩
    dsimp only at hparams ⊢
    have hread := congrArg (Option.getD · []) hparams
    rwa [← List.take_nil, Option.getD_map, Option.getD_map] at hread

theorem ofParams_take (tag : String) (params : List Float) :
    Evaluator.ofParams tag (params.take (needed tag)) = Evaluator.ofParams tag params := by
  rw [needed, Evaluator.ofParams, Evaluator.ofParams]
  cases hc : (Tagged.ofTag? tag : Option Comparison) with
  | some comparison =>
    rw [if_pos (Tagged.exists_ofTag?.mp ⟨comparison, hc⟩)]
    cases params <;> rfl
  | none =>
    rw [if_neg (Tagged.ofTag?_eq_none.mp hc)]
    cases hs : (Tagged.ofTag? tag : Option RangeSide) with
    | some side =>
      rw [if_pos (Tagged.exists_ofTag?.mp ⟨side, hs⟩)]
      rcases params with _ | ⟨lower, _ | ⟨upper, rest⟩⟩ <;> rfl
    | none => rfl

theorem paramsRead_of_read {raw : Json} {p : EvaluatorPart} (h : read raw = .ok p) :
    paramsRead raw = needed p.type := by
  obtain ⟨-, ⟨_, htype, hv⟩, -⟩ := (read_eq_ok raw p).mp h
  obtain rfl := readString_eq_ok.mp hv
  rw [paramsRead, htype]

def test (p : EvaluatorPart) : Except Evaluator.Fault Evaluator := Evaluator.ofParams p.type p.params

theorem read_alike {raw raw' : Json} (h : EvaluatorAlike raw raw') :
    Alike (fun p q => p.test = q.test) (read raw) (read raw') := by
  refine (read_take h).imp fun p q hp hpq => ?_
  obtain ⟨htype, hparams⟩ := hpq
  rw [paramsRead_of_read hp] at hparams
  calc p.test = Evaluator.ofParams p.type (p.params.take (needed p.type)) :=
        (ofParams_take p.type p.params).symm
    _ = Evaluator.ofParams q.type (q.params.take (needed q.type)) := by rw [hparams, htype]
    _ = q.test := ofParams_take q.type q.params

end EvaluatorPart

namespace OperatorPart

theorem read_alike {raw raw' : Json} (h : OperatorAlike raw raw') : read raw = read raw' := by
  refine Alike.eq (readRecord_alike (S := Eq) ?_ rfl ?_ (fun _ => rfl) h)
  · simp only [slots, List.forall_mem_cons]
    refine ⟨Slot.relates_of_eq (fun _ _ hvw => hvw) ?_ ?_, by simp⟩
    · rintro s _ rfl
      rfl
    · rintro a s _ rfl
      rfl
  · rintro s _ rfl
    exact .refl (fun _ => rfl) _

end OperatorPart

namespace QueryPart

theorem read_alike {raw raw' : Json} (h : QueryAlike raw raw') :
    Alike (fun p q => p.params.head? = q.params.head?) (read raw) (read raw') := by
  refine readRecord_alike (T := fun p q : QueryPart => p.params.head? = q.params.head?)
    (S := fun (s t : Form) => s.params.map List.head? = t.params.map List.head?)
    ?_ rfl ?_ (fun _ => rfl) h
  · simp only [slots, List.forall_mem_cons]
    refine ⟨Slot.relates_of (T := fun a b => a.head? = b.head?) ?_ ?_ ?_, by simp⟩
    · rintro v w hvw
      refine (readList_alike ?_ hvw).imp fun a b _ hab => ?_
      · rintro _ ⟨s, rfl⟩
        exact ⟨_, rfl⟩
      · have hhead := congrArg List.head? hab
        rwa [List.head?_take, List.head?_take, if_neg one_ne_zero, if_neg one_ne_zero] at hhead
    · exact fun s t hst => by simpa using congrArg Option.isSome hst
    · exact fun a b s t hab _ => congrArg some hab
  · rintro ⟨params⟩ ⟨params'⟩ hparams
    refine .ok ?_
    have hread := congrArg (Option.getD · none) hparams
    rwa [← List.head?_nil, Option.getD_map, Option.getD_map] at hread

end QueryPart

namespace ReducerPart

theorem read_alike {raw raw' : Json} (h : ReducerAlike raw raw') :
    Alike (fun p q => p.type = q.type) (read raw) (read raw') := by
  refine readRecord_alike (T := fun p q : ReducerPart => p.type = q.type)
    (S := fun (s t : Form) => s.type = t.type ∧ s.params.isSome = t.params.isSome)
    ?_ ⟨rfl, rfl⟩ ?_ (fun _ => rfl) h
  · simp only [slots, List.forall_mem_cons]
    refine ⟨Slot.relates_of_eq (fun _ _ hvw => hvw) ?_ ?_,
      Slot.relates_of (T := fun _ _ => True) ?_ ?_ ?_, by simp⟩
    · exact fun s t hst => congrArg Option.isSome hst.1
    · exact fun a s t hst => ⟨rfl, hst.2⟩
    · intro v w hvw
      exact (readList_alike (fun v _ => ⟨v, rfl⟩) hvw).imp fun _ _ _ _ => trivial
    · exact fun s t hst => hst.2
    · exact fun a b s t _ hst => ⟨hst.1, rfl⟩
  · rintro ⟨type, params⟩ ⟨_, params'⟩ ⟨⟨rfl⟩, -⟩
    refine (Alike.refl (fun _ => rfl) (required "type" type)).bind ?_
    rintro tag _ rfl
    exact .ok rfl

end ReducerPart

namespace ConditionPart

structure Agree (p q : ConditionPart) : Prop where
  evaluator : p.evaluator.test = q.evaluator.test
  operator : p.operator = q.operator
  query : p.query.params.head? = q.query.params.head?
  reducer : p.reducer.type = q.reducer.type

theorem Agree.condition {p q : ConditionPart} (h : Agree p q) (index : Nat) :
    p.condition index = q.condition index := by
  have hevaluator : Evaluator.ofParams p.evaluator.type p.evaluator.params =
      Evaluator.ofParams q.evaluator.type q.evaluator.params := h.evaluator
  rw [ConditionPart.condition, ConditionPart.condition, h.operator, h.query, h.reducer, hevaluator]

/-- The forms agree in what is there and in all that conditions are made of. -/
structure Form.Agree (s t : Form) : Prop where
  evaluator : s.evaluator.map EvaluatorPart.test = t.evaluator.map EvaluatorPart.test
  operator : s.operator = t.operator
  query : s.query.map (·.params.head?) = t.query.map (·.params.head?)
  reducer : s.reducer.map ReducerPart.type = t.reducer.map ReducerPart.type
  type : s.type.isSome = t.type.isSome

theorem finish_alike {s t : Form} (h : s.Agree t) : Alike Agree s.finish t.finish := by
  refine (required_alike h.evaluator).bind fun a b hab => ?_
  refine (required_alike h.query).bind fun c d hcd => ?_
  refine (required_alike h.reducer).bind fun e f hef => .ok ⟨hab, ?_, hcd, hef⟩
  rw [h.operator]

theorem read_alike {raw raw' : Json} (h : ConditionAlike raw raw') :
    Alike Agree (read raw) (read raw') := by
  refine readRecord_alike (S := Form.Agree) ?_ ⟨rfl, rfl, rfl, rfl, rfl⟩ (fun _ _ => finish_alike)
    (fun _ => ⟨rfl, rfl, rfl, rfl⟩) h
  simp only [slots, List.forall_mem_cons]
  refine ⟨Slot.relates_of (T := fun a b => a.test = b.test) ?_ ?_ ?_,
    Slot.relates_of (T := Eq) ?_ ?_ ?_,
    Slot.relates_of (T := fun a b => a.params.head? = b.params.head?) ?_ ?_ ?_,
    Slot.relates_of (T := fun a b => a.type = b.type) ?_ ?_ ?_,
    Slot.relates_of (T := fun _ _ => True) ?_ ?_ ?_, by simp⟩
  · exact fun v w hvw => EvaluatorPart.read_alike hvw
  · exact fun s t hst => by simpa using congrArg Option.isSome hst.evaluator
  · exact fun a b s t hab hst => { hst with evaluator := congrArg some hab }
  · intro v w hvw
    rw [RecordAlike.readOption_eq hvw (OperatorPart.read_alike hvw)]
    exact .refl (fun _ => rfl) _
  · exact fun s t hst => congrArg Option.isSome hst.operator
  · exact fun a b s t hab hst => { hst with operator := congrArg some hab }
  · exact fun v w hvw => QueryPart.read_alike hvw
  · exact fun s t hst => by simpa using congrArg Option.isSome hst.query
  · exact fun a b s t hab hst => { hst with query := congrArg some hab }
  · exact fun v w hvw => ReducerPart.read_alike hvw
  · exact fun s t hst => by simpa using congrArg Option.isSome hst.reducer
  · exact fun a b s t hab hst => { hst with reducer := congrArg some hab }
  · rintro v w (rfl | ⟨s, s', rfl, rfl⟩)
    · exact .refl (fun _ => trivial) _
    · exact .ok trivial
  · exact fun s t hst => hst.type
  · exact fun a b s t _ hst => { hst with type := rfl }

end ConditionPart

theorem parseCondition_alike {raw raw' : Json} (h : ConditionAlike raw raw') (index : Nat) :
    parseCondition index raw = parseCondition index raw' := by
  refine Alike.eq (((ConditionPart.read_alike h).mapError _).bind fun p q hpq => ?_)
  rw [hpq.condition]
  exact .refl (fun _ => rfl) _

theorem parseConditions_alike {raws raws' : List Json} (h : List.Forall₂ ConditionAlike raws raws')
    (index : Nat) : parseConditions index raws = parseConditions index raws' := by
  induction h generalizing index with
  | nil => rfl
  | cons hraw _ ih => rw [parseConditions, parseConditions, parseCondition_alike hraw, ih]

theorem Outline.read_alike {raw raw' : Json} (h : DefinitionAlike raw raw') :
    Alike (fun d e => List.Forall₂ ConditionAlike d.conditions e.conditions) (read raw)
      (read raw') := by
  have hrefl (raws : List Json) : List.Forall₂ ConditionAlike raws raws :=
    List.forall₂_same.mpr fun raw _ => .same raw
  refine readRecord_alike
    (T := fun d e : Outline => List.Forall₂ ConditionAlike d.conditions e.conditions)
    (S := fun s t : Form => Option.Rel (List.Forall₂ ConditionAlike) s.conditions t.conditions)
    ?_ .none ?_ (fun _ => hrefl _) h
  · simp only [slots, List.forall_mem_cons]
    refine ⟨Slot.relates_of (T := List.Forall₂ ConditionAlike) ?_ ?_ ?_, by simp⟩
    · rintro v w (rfl | ⟨raws, raws', rfl, rfl, hraws⟩)
      · exact .refl hrefl _
      · have hread (items : List Json) : readList Readable.json (Json.list items) = .ok items :=
          readList_ok_eq_ok.mpr rfl
        rw [hread, hread]
        exact .ok hraws
    · rintro ⟨_⟩ ⟨_⟩ (_ | _) <;> rfl
    · exact fun a b s t hab _ => .some hab
  · rintro ⟨_⟩ ⟨_⟩ (h | _)
    · exact .ok h
    · exact .error _

theorem ofJson_alike {raw raw' : Json} (h : DefinitionAlike raw raw') (refId : String) :
    ofJson raw refId = ofJson raw' refId := by
  refine Alike.eq (((Outline.read_alike h).mapError _).bind fun d e hde => ?_)
  rw [parseConditions_alike hde]
  exact .refl (fun _ => rfl) _

/-! ## Outcomes -/

/-- Definitions that differ only in what is not read have the same outcome, be it a command or a
refusal, and so have texts of values that differ only in the order of members. -/
theorem outcome_eq (refId : String) :
    (∀ raw raw' : Json, DefinitionAlike raw raw' → ofJson raw refId = ofJson raw' refId) ∧
    ∀ (text text' : String) (v v' : Json),
      Json.ofText text = .ok v → Json.ofText text' = .ok v' →
      (Document.ofText text).root.Reordered (Document.ofText text').root →
      ofText text refId = ofText text' refId := by
  refine ⟨fun raw raw' h => ofJson_alike h refId, fun text text' v v' htext htext' hroots => ?_⟩
  obtain rfl := ofText_of_reordered htext htext' hroots
  rw [ofText, ofText, htext, htext']

/-- A definition with notes in it, in the same order of members or another one. -/
theorem outcome_eq_notes :
    let bare : Json := .object [("conditions", .list [.object [
      ("evaluator", .object [("params", .list [.number (.whole 3)]), ("type", .text "gt")]),
      ("query", .object [("params", .list [.text "A", .text "5m"])]),
      ("reducer", .object [("params", .list []), ("type", .text "avg")]),
      ("type", .text "query")]])]
    let noted : Json := .object [("author", .null), ("conditions", .list [.object [
      ("evaluator", .object [("params", .list [.number (.whole 3), .number (.whole 4)]),
        ("type", .text "gt"), ("unit", .text "ms")]),
      ("query", .object [("model", .null), ("params", .list [.text "A"])]),
      ("reducer", .object [("params", .list [.null]), ("type", .text "avg")]),
      ("type", .text "alert")]])]
    let text := Json.compact (.object [("author", .null), ("conditions", .list [])])
    let text' := Json.compact (.object [("conditions", .list []), ("author", .null)])
    ofJson bare "R" = .ok ⟨"R", [⟨"A", .avg, .and, .threshold .gt 3.0⟩]⟩ ∧
      ofJson bare "R" = ofJson noted "R" ∧ ofText text "R" = ofText text' "R" := by
  intro bare noted text text'
  have halike : DefinitionAlike bare noted := by
    refine .object (.right (by decide) (.cons ⟨rfl, .inr ⟨_, _, rfl, rfl, .cons ?_ .nil⟩⟩ .nil))
    refine .object (.cons ⟨rfl, ?_⟩ (.cons ⟨rfl, ?_⟩ (.cons ⟨rfl, ?_⟩ (.cons ⟨rfl, ?_⟩ .nil))))
    · exact .object (.cons ⟨rfl, .list rfl (.right ⟨_, rfl⟩ .nil)⟩
        (.cons ⟨rfl, rfl⟩ (.right (by decide) .nil)))
    · exact .object (.right (by decide) (.cons ⟨rfl, .list rfl (.left ⟨_, rfl⟩ .nil)⟩ .nil))
    · exact .object (.cons ⟨rfl, .list rfl (.right trivial .nil)⟩ (.cons ⟨rfl, rfl⟩ .nil))
    · exact .inr ⟨_, _, rfl, rfl⟩
  have hprintable (members : List (String × Json))
      (h : ∀ m ∈ members, m.2 = .null ∨ m.2 = .list []) :
      Printable Document.depthLimit (.object members) := by
    refine .object fun m hm => ?_
    rcases h m hm with hnull | hlist
    · exact hnull ▸ .null _
    · exact hlist ▸ .list (by simp)
  have hroot : Document.ofText text =
      ⟨Json.draft (.object [("author", .null), ("conditions", .list [])]), false⟩ :=
    document_compact (hprintable _ (by simp))
  have hroot' : Document.ofText text' =
      ⟨Json.draft (.object [("conditions", .list []), ("author", .null)]), false⟩ :=
    document_compact (hprintable _ (by simp))
  have hvalue : Json.ofText text = .ok (.object [("author", .null), ("conditions", .list [])]) :=
    ofText_eq_ok.mpr (by rw [hroot]; exact ⟨rfl, rfl⟩)
  have hvalue' : Json.ofText text' = .ok (.object [("author", .null), ("conditions", .list [])]) :=
    ofText_eq_ok.mpr (by rw [hroot']; exact ⟨rfl, rfl⟩)
  refine ⟨rfl, (outcome_eq "R").1 bare noted halike,
    (outcome_eq "R").2 text text' _ _ hvalue hvalue' ?_⟩
  rw [hroot, hroot']
  exact .swap false [] [] .closed rfl rfl (by decide)

end Alerting.Definition
