import Alerting.Json.Record

/-!
# Parts of a stored definition

A definition lists conditions, and a condition has four parts. The parts are read
as they are stored, without a look at their tags.
-/
namespace Alerting.Definition

open Json (Fault Readable Slot)

variable {α : Type} [Readable α]

/-- A definition whose conditions have not been read. -/
structure Outline where
  conditions : List Json

namespace Outline

def toJson (d : Outline) : Json := .object [("conditions", .list d.conditions)]

structure Form where
  conditions : Option (List Json)

def slots : List (Slot α Form) := [
  .of "conditions" (Json.readList Readable.json) (·.conditions)
    (fun v s => { s with conditions := some v }) false]

def Form.finish (s : Form) : Except Fault Outline := do
  pure ⟨← Json.required "conditions" s.conditions⟩

def read : α → Except Fault Outline :=
  Json.readRecord "struct ConditionsJson" slots ⟨none⟩ Form.finish

end Outline

structure EvaluatorPart where
  type : String
  params : List Float

namespace EvaluatorPart

def toJson (p : EvaluatorPart) : Json :=
  .object [("type", .text p.type), ("params", .list (p.params.map Json.ofFloat))]

structure Form where
  type : Option String
  params : Option (List Float)

def slots : List (Slot α Form) := [
  .of "type" Json.readString (·.type) (fun v s => { s with type := some v }) false,
  .of "params" (Json.readList Json.readFloat) (·.params)
    (fun v s => { s with params := some v }) true]

def Form.finish (s : Form) : Except Fault EvaluatorPart := do
  pure ⟨← Json.required "type" s.type, s.params.getD []⟩

def read : α → Except Fault EvaluatorPart :=
  Json.readRecord "struct EvaluatorJson" slots ⟨none, none⟩ Form.finish

end EvaluatorPart

/-- The stored operator of a condition, which may have no type. -/
structure OperatorPart where
  type : Option String

namespace OperatorPart

def toJson (p : OperatorPart) : Json := .object (Json.member? "type" .text p.type)

structure Form where
  type : Option (Option String)

def slots : List (Slot α Form) := [
  .of "type" (Json.readOption Json.readString) (·.type)
    (fun v s => { s with type := some v }) true]

def Form.finish (s : Form) : Except Fault OperatorPart := .ok ⟨s.type.join⟩

def read : α → Except Fault OperatorPart :=
  Json.readRecord "struct OperatorJson" slots ⟨none⟩ Form.finish

end OperatorPart

/-- The stored query of a condition. The first parameter is its reference ID. -/
structure QueryPart where
  params : List String

namespace QueryPart

def toJson (p : QueryPart) : Json := .object [("params", .list (p.params.map .text))]

structure Form where
  params : Option (List String)

def slots : List (Slot α Form) := [
  .of "params" (Json.readList Json.readString) (·.params)
    (fun v s => { s with params := some v }) true]

def Form.finish (s : Form) : Except Fault QueryPart := .ok ⟨s.params.getD []⟩

def read : α → Except Fault QueryPart :=
  Json.readRecord "struct QueryJson" slots ⟨none⟩ Form.finish

end QueryPart

/-- The stored reducer of a condition. Its parameters may be anything. -/
structure ReducerPart where
  type : String
  params : List Json

namespace ReducerPart

def toJson (p : ReducerPart) : Json :=
  .object [("type", .text p.type), ("params", .list p.params)]

structure Form where
  type : Option String
  params : Option (List Json)

def slots : List (Slot α Form) := [
  .of "type" Json.readString (·.type) (fun v s => { s with type := some v }) false,
  .of "params" (Json.readList Readable.json) (·.params)
    (fun v s => { s with params := some v }) true]

def Form.finish (s : Form) : Except Fault ReducerPart := do
  pure ⟨← Json.required "type" s.type, s.params.getD []⟩

def read : α → Except Fault ReducerPart :=
  Json.readRecord "struct ReducerJson" slots ⟨none, none⟩ Form.finish

end ReducerPart

structure ConditionPart where
  evaluator : EvaluatorPart
  operator : Option OperatorPart
  query : QueryPart
  reducer : ReducerPart
  type : Option String

namespace ConditionPart

def toJson (p : ConditionPart) : Json :=
  .object <|
    [("evaluator", p.evaluator.toJson)] ++
    Json.member? "operator" OperatorPart.toJson p.operator ++
    [("query", p.query.toJson), ("reducer", p.reducer.toJson)] ++
    Json.member? "type" .text p.type

structure Form where
  evaluator : Option EvaluatorPart
  operator : Option (Option OperatorPart)
  query : Option QueryPart
  reducer : Option ReducerPart
  type : Option (Option String)

def slots : List (Slot α Form) := [
  .of "evaluator" EvaluatorPart.read (·.evaluator)
    (fun v s => { s with evaluator := some v }) false,
  .of "operator" (Json.readOption OperatorPart.read) (·.operator)
    (fun v s => { s with operator := some v }) true,
  .of "query" QueryPart.read (·.query) (fun v s => { s with query := some v }) false,
  .of "reducer" ReducerPart.read (·.reducer) (fun v s => { s with reducer := some v }) false,
  .of "type" (Json.readOption Json.readString) (·.type)
    (fun v s => { s with type := some v }) true]

def Form.finish (s : Form) : Except Fault ConditionPart := do
  let evaluator ← Json.required "evaluator" s.evaluator
  let query ← Json.required "query" s.query
  let reducer ← Json.required "reducer" s.reducer
  pure ⟨evaluator, s.operator.join, query, reducer, s.type.join⟩

def read : α → Except Fault ConditionPart :=
  Json.readRecord "struct ConditionJson" slots ⟨none, none, none, none, none⟩ Form.finish

end ConditionPart
end Alerting.Definition
