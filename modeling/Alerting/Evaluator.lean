import Alerting.Tag

/-!
# Evaluators

An evaluator is a test of one number: a comparison with a threshold or a range
with both ends included. It is named by a tag and a list of parameters.
-/
namespace Alerting

inductive Comparison where
  | gt
  | lt
  | ge
  | le
  | eq
  | ne
deriving DecidableEq, Repr

namespace Comparison

def tag : Comparison → String
  | gt => "gt"
  | lt => "lt"
  | ge => "ge"
  | le => "le"
  | eq => "eq"
  | ne => "ne"

def sign : Comparison → String
  | gt => ">"
  | lt => "<"
  | ge => ">="
  | le => "<="
  | eq => "=="
  | ne => "!="

instance : Tagged Comparison where
  noun := "threshold kind"
  all := [gt, lt, ge, le, eq, ne]
  tag := tag

def holds : Comparison → Float → Float → Bool
  | gt, x, y => x > y
  | lt, x, y => x < y
  | ge, x, y => x ≥ y
  | le, x, y => x ≤ y
  | eq, x, y => x == y
  | ne, x, y => x != y

end Comparison

inductive RangeSide where
  | within
  | outside
deriving DecidableEq, Repr

namespace RangeSide

def tag : RangeSide → String
  | within => "within_range"
  | outside => "outside_range"

instance : Tagged RangeSide where
  noun := "range kind"
  all := [within, outside]
  tag := tag

def holds (side : RangeSide) (lower upper x : Float) : Bool :=
  let inside := lower ≤ x && x ≤ upper
  match side with
  | within => inside
  | outside => !inside

end RangeSide

inductive Evaluator where
  | threshold (comparison : Comparison) (limit : Float)
  | range (side : RangeSide) (lower upper : Float)
deriving BEq

namespace Evaluator

def holds : Evaluator → Float → Bool
  | threshold comparison limit, x => comparison.holds x limit
  | range side lower upper, x => side.holds lower upper x

def tag : Evaluator → String
  | threshold comparison _ => comparison.tag
  | range side _ _ => side.tag

def params : Evaluator → List Float
  | threshold _ limit => [limit]
  | range _ lower upper => [lower, upper]

def display : Evaluator → String
  | threshold comparison limit => comparison.sign ++ " " ++ Decimal.display limit
  | range side lower upper =>
    side.tag ++ " [" ++ Decimal.display lower ++ ", " ++ Decimal.display upper ++ "]"

/-- Why a tag and its parameters make no evaluator. -/
inductive Fault where
  | unknownTag (tag : String)
  | tooFewParams (tag : String) (needed : Nat)
deriving DecidableEq

/-- The evaluator with a tag and parameters. Parameters after those it needs are ignored. -/
def ofParams (tag : String) (params : List Float) : Except Fault Evaluator :=
  match (Tagged.ofTag? tag : Option Comparison), (Tagged.ofTag? tag : Option RangeSide) with
  | some comparison, _ =>
    match params with
    | limit :: _ => .ok (.threshold comparison limit)
    | [] => .error (.tooFewParams tag 1)
  | none, some side =>
    match params with
    | lower :: upper :: _ => .ok (.range side lower upper)
    | _ => .error (.tooFewParams tag 2)
  | none, none => .error (.unknownTag tag)

end Evaluator
end Alerting
