import Alerting.CommandLine.Arguments
import Alerting.CommandLine.Failure
import Alerting.Definition.Parse
import Alerting.Report

/-!
# Runs

A run reads the definition first and then the vars. It has an output or a failure,
never both.
-/
namespace Alerting.CommandLine

def loadConditions (disk : Disk) (path refId : String) : Except Failure Command := do
  let text ← (disk path).mapError (.unreadableConditions path)
  (if Path.isYaml path then Definition.ofYaml text refId
    else Definition.ofText text refId).mapError (.badConditions path)

def loadVars (disk : Disk) (path : String) : Except Failure Vars := do
  let text ← (disk path).mapError (.unreadableVars path)
  (Vars.ofText text).mapError (.badVars path)

def render (format : Format) (batch : Batch) : Except Failure String :=
  match format with
  | .json => .ok (Report.document batch ++ "\n")
  | .text =>
    match Report.verdictNumber? batch with
    | some n => .ok (Report.text n)
    | none => .error .noVerdict

/-- The output of a request. What it does not say comes from the settings. No verdict depends on
the time, so any will do for a request without one. -/
def Request.output (disk : Disk) (settings : Settings) : Request → Except Failure String
  | needsVars conditions refId => do
    let cmd ← loadConditions disk conditions (refId.getD settings.refId)
    pure ("".intercalate (cmd.needsVars.map (· ++ "\n")))
  | eval conditions vars refId now format => do
    let cmd ← loadConditions disk conditions (refId.getD settings.refId)
    let vars ← loadVars disk vars
    render (format.getD settings.output) (cmd.execute (now.getD default) vars)

structure Exit where
  code : Nat
  output : String := ""
  errors : List String := []
  /-- Whether the user is told how the program is used. -/
  showsUsage : Bool := false
deriving DecidableEq

namespace Exit

def ofResult : Except Failure String → Exit
  | .ok output => { code := 0, output }
  | .error failure => { code := 1, errors := failure.lines }

/-- How arguments end that make no request. -/
def ofNotice : Notice → Exit
  | .help => { code := 0, showsUsage := true }
  | .version => { code := 0, output := "alertcond 0.1.0\n" }
  | .misuse => { code := 2, showsUsage := true }

end Exit

def run (disk : Disk) (env : Environment) (arguments : List String) : Exit :=
  match readRequest arguments with
  | .ok request => .ofResult (request.output disk (.ofEnvironment env))
  | .error notice => .ofNotice notice

end Alerting.CommandLine
