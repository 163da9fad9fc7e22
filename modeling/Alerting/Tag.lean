import Alerting.Json.Record

/-!
# Tags

Reducers, operators, comparisons and formats are named by tags. A type with tags
lists its values, and a tag names the value that carries it.
-/
namespace Alerting

/-- A finite type whose values have names. -/
class Tagged (α : Type) where
  /-- What a value is called. -/
  noun : String
  all : List α
  tag : α → String

namespace Tagged

variable {α : Type} [Tagged α]

def ofTag? (text : String) : Option α := (all : List α).find? fun a => tag a = text

def tags (α : Type) [Tagged α] : List String := (all : List α).map tag

def unknownTag (α : Type) [Tagged α] (text : String) : String :=
  "unknown " ++ noun α ++ ": '" ++ text ++ "'"

def ofVariant (text : String) : Except Json.Fault α :=
  match ofTag? text with
  | some a => .ok a
  | none => .error (.unknownVariant text (tags α))

/-- Reads a value by its tag, alone or as an object with null. -/
def read : Json.Draft → Except Json.Fault α :=
  Json.readVariant fun name content => do
    let a ← ofVariant name
    match content with
    | none => pure a
    | some d =>
      Json.readNull d
      pure a

end Tagged
end Alerting
