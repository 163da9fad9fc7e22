import Alerting.Binary64
import Alerting.Evidence

/-!
# Samples

A query answers with a batch of values: time series, single numbers, or the note
that it returned nothing. Vars hold the batches by the reference ID of the query.
-/
namespace Alerting

/-- A sample of a series; its value may be null. -/
structure Point where
  time : Time.Instant
  value : Option Binary64
deriving DecidableEq

structure Series where
  name : Option String
  labels : Option Labels
  points : List Point
deriving DecidableEq

namespace Series

/-- The doubles of the points that are not null, in order. -/
def doubles (s : Series) : List Binary64 := s.points.filterMap Point.value

def values (s : Series) : List Float := s.doubles.map Binary64.toFloat

def push (s : Series) (time : Time.Instant) (value : Option Binary64) : Series :=
  { s with points := s.points ++ [⟨time, value⟩] }

end Series

/-- A single number, with the evidence behind it if it is a verdict. -/
structure Number where
  name : Option String
  labels : Option Labels
  value : Option Float
  evidence : Option (List Evidence)
deriving DecidableEq

inductive Value where
  | series (s : Series)
  | number (n : Number)
  /-- The query ran and returned nothing. -/
  | noData
deriving DecidableEq

namespace Value

def name : Value → Option String
  | series s => s.name
  | number n => n.name
  | noData => none

def labels : Value → Option Labels
  | series s => s.labels
  | number n => n.labels
  | noData => none

end Value

abbrev Batch := List Value

/-- Batches by the reference ID of their query. -/
abbrev Vars := Dictionary Batch

end Alerting
