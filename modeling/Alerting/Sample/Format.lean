import Alerting.Sample

/-!
# Samples as documents

Every kind of sample has a written form and a reader for it. Absent names,
labels and evidence are left out, and null values are written as null.
-/
namespace Alerting

open Json (Fault Readable Slot)

variable {α : Type} [Readable α]

namespace Point

def toJson (p : Point) : Json :=
  .object [("time", .text p.time.text),
    ("value", Json.ofOption Json.ofFloat (p.value.map Binary64.toFloat))]

structure Form where
  time : Option Time.Instant
  value : Option (Option Float)

def slots : List (Slot α Form) := [
  .of "time" Json.readTime (·.time) (fun v s => { s with time := some v }) false,
  .of "value" (Json.readOption Json.readFloat) (·.value)
    (fun v s => { s with value := some v }) false]

def Form.finish (s : Form) : Except Fault Point := do
  let time ← Json.required "time" s.time
  pure ⟨time, s.value.join.map Binary64.ofFloat⟩

def read : α → Except Fault Point :=
  Json.readRecord "struct Point" slots ⟨none, none⟩ Form.finish

end Point

namespace Series

def toJson (s : Series) : Json :=
  .object <|
    Json.member? "name" .text s.name ++
    Json.member? "labels" Labels.toJson s.labels ++
    [("points", .list (s.points.map Point.toJson))]

structure Form where
  name : Option (Option String)
  labels : Option (Option Labels)
  points : Option (List Point)

def slots : List (Slot α Form) := [
  .of "name" (Json.readOption Json.readString) (·.name) (fun v s => { s with name := some v }) true,
  .of "labels" (Json.readOption Labels.read) (·.labels)
    (fun v s => { s with labels := some v }) true,
  .of "points" (Json.readList Point.read) (·.points) (fun v s => { s with points := some v }) true]

def Form.finish (s : Form) : Except Fault Series :=
  .ok ⟨s.name.join, s.labels.join, s.points.getD []⟩

def read : α → Except Fault Series :=
  Json.readRecord "struct Series" slots ⟨none, none, none⟩ Form.finish

end Series

namespace Number

def toJson (n : Number) : Json :=
  .object <|
    Json.member? "name" .text n.name ++
    Json.member? "labels" Labels.toJson n.labels ++
    [("value", Json.ofOption Json.ofFloat n.value)] ++
    Json.member? "meta" (fun es => .list (es.map Evidence.toJson)) n.evidence

structure Form where
  name : Option (Option String)
  labels : Option (Option Labels)
  value : Option (Option Float)
  evidence : Option (Option (List Evidence))

def slots : List (Slot α Form) := [
  .of "name" (Json.readOption Json.readString) (·.name) (fun v s => { s with name := some v }) true,
  .of "labels" (Json.readOption Labels.read) (·.labels)
    (fun v s => { s with labels := some v }) true,
  .of "value" (Json.readOption Json.readFloat) (·.value)
    (fun v s => { s with value := some v }) false,
  .of "meta" (Json.readOption (Json.readList Evidence.read)) (·.evidence)
    (fun v s => { s with evidence := some v }) true]

def Form.finish (s : Form) : Except Fault Number :=
  .ok ⟨s.name.join, s.labels.join, s.value.join, s.evidence.join⟩

def read : α → Except Fault Number :=
  Json.readRecord "struct Number" slots ⟨none, none, none, none⟩ Form.finish

end Number

namespace Value

def kinds : List String := ["series", "number", "no_data"]

def toJson : Value → Json
  | series s => .object [("series", s.toJson)]
  | number n => .object [("number", n.toJson)]
  | noData => .text "no_data"

/-- The value of a kind. Series and numbers need content, which the note of no data may only have
as null. -/
def ofKind (kind : String) (content : Option Json.Draft) : Except Fault Value :=
  match kind, content with
  | "series", some d => (Series.read d).map .series
  | "number", some d => (Number.read d).map .number
  | "no_data", some d => (Json.readNull d).map fun _ => .noData
  | "no_data", none => .ok .noData
  | kind, _ =>
    if kind ∈ kinds then .error (.wrongType .bareVariant "newtype variant")
    else .error (.unknownVariant kind kinds)

def read : Json.Draft → Except Fault Value := Json.readVariant ofKind

end Value

namespace Batch

def toJson (batch : Batch) : Json := .list (batch.map Value.toJson)

def read : Json.Draft → Except Fault Batch := Json.readList Value.read

end Batch

namespace Vars

def toJson (vars : Vars) : Json :=
  .object (vars.entries.map fun (id, batch) => (id, Batch.toJson batch))

def read : Json.Draft → Except Fault Vars := Json.readDictionary Batch.read

def ofText (text : String) : Except Fault Vars := Json.readText read text

def faultMessage (fault : Fault) : String := "Serialization error: " ++ fault.message

end Vars
end Alerting
