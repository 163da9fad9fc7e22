import Alerting.Definition.Fault
import Alerting.Path
import Alerting.Sample.Format

/-!
# Failures

A failed request is reported by what it was about and by its causes, each behind
the one that it led to.
-/
namespace Alerting.CommandLine

inductive Failure where
  | unreadableConditions (path : String) (fault : FileFault)
  | badConditions (path : String) (fault : Definition.Fault)
  | unreadableVars (path : String) (fault : FileFault)
  | badVars (path : String) (fault : Json.Fault)
  | noVerdict
deriving DecidableEq

namespace Failure

def subject : Failure → String
  | unreadableConditions path _ => "failed to read conditions: " ++ path
  | badConditions path _ => "failed to parse conditions: " ++ path
  | unreadableVars path _ | badVars path _ => "failed to read vars: " ++ path
  | noVerdict => "conditions produced no verdict"

/-- The causes of a failure, the last of them the first to happen. -/
def causes : Failure → List String
  | unreadableConditions _ fault => [fault.message]
  | badConditions _ (.json fault) => [(Definition.Fault.json fault).message, fault.message]
  | badConditions _ fault => [fault.message]
  | unreadableVars _ fault => ["IO error: " ++ fault.message, fault.message]
  | badVars _ fault => [Vars.faultMessage fault]
  | noVerdict => []

/-- The lines of a text behind `head`, all but the first behind as many spaces. -/
def indented (head text : String) : List String :=
  match (Text.split '\n' text.toList).map String.ofList with
  | [] => [head]
  | first :: rest =>
    (head ++ first) :: rest.map fun line => String.ofList (head.toList.map fun _ => ' ') ++ line

/-- The lines of causes. Two or more are numbered. -/
def causeLines : List String → List String
  | [] => []
  | [cause] => "" :: "Caused by:" :: indented "    " cause
  | causes =>
    "" :: "Caused by:" ::
      (causes.mapIdx fun i cause => indented ("    " ++ toString i ++ ": ") cause).flatten

def lines (failure : Failure) : List String :=
  (Text.split '\n' ("Error: " ++ failure.subject).toList).map String.ofList ++
    causeLines failure.causes

end Failure
end Alerting.CommandLine
