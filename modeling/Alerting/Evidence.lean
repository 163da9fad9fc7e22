import Alerting.Labels

/-!
# Evidence

An entry of evidence is a value that made an alert fire, with the name and the
labels of what it was reduced from, or the marker that there was no data.
-/
namespace Alerting

def noDataMetric : String := "NoData"

/-- An entry of evidence for a verdict. -/
structure Evidence where
  value : Option Float
  metric : Option String
  labels : Option Labels
deriving DecidableEq

namespace Evidence

def noData : Evidence := ⟨none, some noDataMetric, none⟩

def isNoData (e : Evidence) : Bool := e.value.isNone && e.metric = some noDataMetric

/-- The labels of an entry in a display; no labels and empty ones are not shown. -/
def labelsDisplay : Option Labels → String
  | some labels =>
    if labels.isEmpty then "" else " labels=\x7b" ++ labels.display ++ "\x7d"
  | none => ""

def display (e : Evidence) : String :=
  if e.isNoData then noDataMetric
  else
    "value=" ++ e.value.elim "null" Decimal.display ++
      e.metric.elim "" (" metric=" ++ ·) ++ labelsDisplay e.labels

def toJson (e : Evidence) : Json :=
  .object <|
    Json.member? "value" Json.ofFloat e.value ++
    Json.member? "metric" .text e.metric ++
    Json.member? "labels" Labels.toJson e.labels

structure Form where
  value : Option (Option Float)
  metric : Option (Option String)
  labels : Option (Option Labels)

def slots {α : Type} [Json.Readable α] : List (Json.Slot α Form) := [
  .of "value" (Json.readOption Json.readFloat) (·.value)
    (fun v s => { s with value := some v }) true,
  .of "metric" (Json.readOption Json.readString) (·.metric)
    (fun v s => { s with metric := some v }) true,
  .of "labels" (Json.readOption Labels.read) (·.labels)
    (fun v s => { s with labels := some v }) true]

def Form.finish (s : Form) : Except Json.Fault Evidence :=
  .ok ⟨s.value.join, s.metric.join, s.labels.join⟩

def read {α : Type} [Json.Readable α] : α → Except Json.Fault Evidence :=
  Json.readRecord "struct EvalMatch" slots ⟨none, none, none⟩ Form.finish

end Evidence
end Alerting
