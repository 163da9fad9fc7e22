import Alerting.Command
import Alerting.Definition.Fault
import Alerting.Definition.Parts
import Alerting.Yaml.Value

/-!
# From definitions to commands and back

A definition becomes a command one condition after another, so the refusal is
about the first condition that has a fault. A command is stored in the shape that
reads back as the same command.
-/
namespace Alerting.Definition

def ConditionPart.condition (index : Nat) (p : ConditionPart) : Except Fault Condition := do
  let some input := p.query.params.head?.filter (!·.isEmpty)
    | throw (.malformed index .noInput)
  let some reducer := Tagged.ofTag? p.reducer.type
    | throw (.unsupportedReducer index p.reducer.type)
  let operator ←
    match p.operator.bind OperatorPart.type with
    | none => pure Operator.and
    | some tag =>
      match Tagged.ofTag? tag with
      | some operator => pure operator
      | none => throw (.malformed index (.unknownOperator tag))
  let evaluator ←
    (Evaluator.ofParams p.evaluator.type p.evaluator.params).mapError (.ofEvaluator index)
  pure ⟨input, reducer, operator, evaluator⟩

def parseCondition (index : Nat) (raw : Json) : Except Fault Condition := do
  let part ← (ConditionPart.read raw).mapError fun f => .malformed index (.shape f)
  part.condition index

/-- Conditions from their stored forms, the first at `index`. -/
def parseConditions (index : Nat) : List Json → Except Fault (List Condition)
  | [] => .ok []
  | raw :: rest => do
    let c ← parseCondition index raw
    let cs ← parseConditions (index + 1) rest
    pure (c :: cs)

/-- The command with the reference ID `refId` of a definition. -/
def ofJson (raw : Json) (refId : String) : Except Fault Command := do
  let outline ← (Outline.read raw).mapError fun f => .malformed 0 (.shape f)
  let conditions ← parseConditions 0 outline.conditions
  pure ⟨refId, conditions⟩

def ofText (text refId : String) : Except Fault Command := do
  let raw ← (Json.ofText text).mapError .json
  ofJson raw refId

def ofYaml (text refId : String) : Except Fault Command :=
  match Yaml.ofText? text with
  | some raw => ofJson raw refId
  | none => .error .yaml

def conditionJson (c : Condition) : Json :=
  .object [
    ("evaluator", .object [
      ("params", .list (c.evaluator.params.map Json.ofFloat)),
      ("type", .text c.evaluator.tag)]),
    ("operator", .object [("type", .text c.operator.tag)]),
    ("query", .object [("params", .list [.text c.input])]),
    ("reducer", .object [("params", .list []), ("type", .text c.reducer.tag)]),
    ("type", .text "query")]

/-- The stored form of a command, which has no place for its reference ID. -/
def toJson (cmd : Command) : Json :=
  .object [("conditions", .list (cmd.conditions.map conditionJson))]

end Alerting.Definition
