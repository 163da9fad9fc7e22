import Alerting.Evaluator
import Alerting.Reducer

/-!
# Conditions

A condition reduces every value of one batch and tests the numbers. It fires if
any number passes. Values without a number count for nothing, and if there is no
other value the condition has no data.
-/
namespace Alerting

/-- How a condition joins the ones before it. -/
inductive Operator where
  | and
  | or
deriving DecidableEq, Repr

namespace Operator

def tag : Operator → String
  | and => "and"
  | or => "or"

instance : Tagged Operator where
  noun := "operator"
  all := [and, or]
  tag := tag

instance : Inhabited Operator := ⟨and⟩

def apply : Operator → Bool → Bool → Bool
  | and, x, y => x && y
  | or, x, y => x || y

end Operator

/-- A test of the batch that one query returned. -/
structure Condition where
  /-- The reference ID of the query. -/
  input : String
  reducer : Reducer
  operator : Operator
  evaluator : Evaluator
deriving BEq

structure Outcome where
  firing : Bool
  noData : Bool
  /-- An entry for each number that passed the test, in the order of the batch. -/
  evidence : List Evidence
deriving DecidableEq

namespace Outcome

def absent : Outcome := ⟨false, true, []⟩

end Outcome

namespace Condition

/-- The values of a batch that have a number, with their numbers. -/
def reduced (c : Condition) (batch : Batch) : List (Value × Float) :=
  batch.filterMap fun v => (c.reducer.reduceValue v).map (v, ·)

/-- The evidence of a value whose number is `x`. -/
def evidenceOf (v : Value) (x : Float) : Evidence := ⟨some x, v.name, v.labels⟩

def evidence (c : Condition) (batch : Batch) : List Evidence :=
  ((c.reduced batch).filter fun e => c.evaluator.holds e.2).map fun e => evidenceOf e.1 e.2

def outcome (c : Condition) (batch : Batch) : Outcome :=
  if (c.reduced batch).isEmpty then .absent
  else ⟨!(c.evidence batch).isEmpty, false, c.evidence batch⟩

/-- The outcome for the batch that the condition reads; a missing batch is an empty one. -/
def evaluate (c : Condition) (vars : Vars) : Outcome :=
  c.outcome ((vars.get? c.input).getD [])

def display (c : Condition) : String :=
  c.reducer.tag ++ "(" ++ c.input ++ ") " ++ c.evaluator.display

end Condition
end Alerting
