import Alerting.Evaluator

/-!
# Faults of definitions

A definition is refused for its text, which names no condition, or for one of its
conditions, which the refusal names by position.
-/
namespace Alerting.Definition

/-- What is wrong with a condition whose tags of reducer and evaluator are known. -/
inductive Malformation where
  | shape (fault : Json.Fault)
  | noInput
  | unknownOperator (tag : String)
  | tooFewParams (tag : String) (needed : Nat)
deriving DecidableEq

def Malformation.message : Malformation → String
  | shape fault => fault.message
  | noInput => "query.params must name an input ref ID"
  | unknownOperator tag => "unknown operator: '" ++ tag ++ "'"
  | tooFewParams tag needed =>
    "evaluator '" ++ tag ++ "' requires " ++ toString needed ++
      if needed = 1 then " parameter" else " parameters"

inductive Fault where
  | malformed (index : Nat) (reason : Malformation)
  | unsupportedReducer (index : Nat) (tag : String)
  | unsupportedEvaluator (index : Nat) (tag : String)
  | json (fault : Json.Fault)
  | yaml
deriving DecidableEq

namespace Fault

def ofEvaluator (index : Nat) : Evaluator.Fault → Fault
  | .unknownTag tag => .unsupportedEvaluator index tag
  | .tooFewParams tag needed => .malformed index (.tooFewParams tag needed)

def index? : Fault → Option Nat
  | malformed index _ | unsupportedReducer index _ | unsupportedEvaluator index _ => some index
  | json _ | yaml => none

def message : Fault → String
  | malformed index reason =>
    "malformed condition at index " ++ toString index ++ ": " ++ reason.message
  | unsupportedReducer index tag =>
    "unsupported reducer type '" ++ tag ++ "' in condition " ++ toString index
  | unsupportedEvaluator index tag =>
    "unsupported evaluator type '" ++ tag ++ "' in condition " ++ toString index
  | json fault => "JSON parse error: " ++ fault.message
  | yaml => "YAML parse error"

end Fault
end Alerting.Definition
