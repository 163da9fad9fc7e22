import Alerting.Sample.Format

/-!
# Reports

A verdict is reported as lines of text, the verdict first and its evidence
below, or as a pretty document.
-/
namespace Alerting

inductive Verdict where
  | firing
  | ok
  | noData
deriving DecidableEq, Repr

namespace Verdict

def ofNumber (n : Number) : Verdict :=
  match n.value with
  | none => noData
  | some x => if x != 0.0 then firing else ok

def display : Verdict → String
  | firing => "firing"
  | ok => "ok"
  | noData => "no_data"

end Verdict

namespace Report

/-- The number of a batch that holds one number and nothing else. -/
def verdictNumber? : Batch → Option Number
  | [.number n] => some n
  | _ => none

def lines (n : Number) : List String :=
  (Verdict.ofNumber n).display :: (n.evidence.getD []).map fun e => "  " ++ e.display

def text (n : Number) : String := "".intercalate ((lines n).map (· ++ "\n"))

def document (batch : Batch) : String := (Batch.toJson batch).pretty

end Report
end Alerting
