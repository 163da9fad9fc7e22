import Alerting.Sample
import Alerting.Tag

/-!
# Reducers

A reducer turns a series into one number. Null points are dropped first, and a
series of nothing but null points has no number. Single numbers pass unchanged.
-/
namespace Alerting

inductive Reducer where
  | avg
  | sum
  | min
  | max
  | count
  | countNonNull
  | last
  | median
  | diff
  | diffAbs
  | percentDiff
  | percentDiffAbs
deriving DecidableEq, Repr

namespace Reducer

def tag : Reducer → String
  | avg => "avg"
  | sum => "sum"
  | min => "min"
  | max => "max"
  | count => "count"
  | countNonNull => "count_non_null"
  | last => "last"
  | median => "median"
  | diff => "diff"
  | diffAbs => "diff_abs"
  | percentDiff => "percent_diff"
  | percentDiffAbs => "percent_diff_abs"

instance : Tagged Reducer where
  noun := "reducer"
  all := [avg, sum, min, max, count, countNonNull, last, median, diff, diffAbs, percentDiff,
    percentDiffAbs]
  tag := tag

/-- The sum of doubles from left to right, which of none is minus zero. -/
def total (xs : List Float) : Float := xs.foldl (· + ·) (-0.0)

/-- The lesser of two doubles; one that is no number gives way to the other. -/
def lesser (x y : Float) : Float :=
  if y.isNaN then x else if x.isNaN then y else if y < x then y else x

def greater (x y : Float) : Float :=
  if y.isNaN then x else if x.isNaN then y else if x < y then y else x

def ordered (xs : List Binary64) : List Binary64 := xs.mergeSort fun x y => x.rank ≤ y.rank

/-- The middle double in the total order, or half the sum of the two in the middle. -/
def middle (xs : List Binary64) : Float :=
  let sorted := (ordered xs).map Binary64.toFloat
  let half := sorted.length / 2
  let upper := sorted[half]?.getD 0.0
  if sorted.length % 2 = 1 then upper else (sorted[half - 1]?.getD 0.0 + upper) / 2.0

def percentChange (first last : Float) : Float := (last - first) / first.abs * 100.0

/-- The number of a series with `points` points and the values `first :: rest`. -/
def reduceValues (r : Reducer) (points : Nat) (first : Binary64) (rest : List Binary64) : Float :=
  let values := (first :: rest).map Binary64.toFloat
  let final := (rest.getLastD first).toFloat
  let n := Float.ofNat values.length
  match r with
  | avg => total values / n
  | sum => total values
  | min => values.foldl lesser Decimal.infinity
  | max => values.foldl greater (-Decimal.infinity)
  | count => Float.ofNat points
  | countNonNull => n
  | last => final
  | median => middle (first :: rest)
  | diff => final - first.toFloat
  | diffAbs => (final - first.toFloat).abs
  | percentDiff => percentChange first.toFloat final
  | percentDiffAbs => (percentChange first.toFloat final).abs

/-- The number of a series, unless all its points are null. -/
def reduce (r : Reducer) (s : Series) : Option Float :=
  match s.doubles with
  | [] => none
  | first :: rest => some (r.reduceValues s.points.length first rest)

def reduceValue (r : Reducer) : Value → Option Float
  | .series s => r.reduce s
  | .number n => n.value
  | .noData => none

end Reducer
end Alerting
