import Alerting.Dictionary
import Alerting.Json.Record

/-!
# Labels

Labels tell the series of a query apart, as in `host=web-1`. They are kept, shown
and written in the order of their keys.
-/
namespace Alerting

/-- Dimensions of a series, by name. -/
abbrev Labels := Dictionary String

namespace Labels

/-- Labels as `k1=v1, k2=v2`. -/
def display (labels : Labels) : String :=
  ", ".intercalate (labels.entries.map fun (k, v) => k ++ "=" ++ v)

def toJson (labels : Labels) : Json := .object (labels.entries.map fun (k, v) => (k, .text v))

/-- Reads labels; of entries with one key the last stays. -/
def read {α : Type} [Json.Readable α] : α → Except Json.Fault Labels :=
  Json.readDictionary Json.readString

end Labels
end Alerting
