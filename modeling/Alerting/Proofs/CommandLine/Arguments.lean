import Alerting.CommandLine.Arguments
import Alerting.Proofs.Fallible
import Alerting.Proofs.Time.Text

/-!
# Arguments of requests

Every request that names its files can be written as arguments. An option that is given counts as
given whatever its value, also when that is empty.
-/
namespace Alerting.CommandLine
open Fallible

def Request.paths : Request → List String
  | needsVars conditions _ => [conditions]
  | eval conditions vars _ _ _ => [conditions, vars]

/-- The argument for an option, if the option is given. -/
def optionArguments (name : String) (value : Option String) : List String :=
  value.toList.map fun v => "--" ++ name ++ "=" ++ v

/-- A request as arguments: the options come first, and a double dash before the files. -/
def Request.arguments : Request → List String
  | needsVars conditions refId =>
    "needs-vars" :: (optionArguments "ref-id" refId ++ ["--", conditions])
  | eval conditions vars refId now format =>
    "eval" :: (optionArguments "ref-id" refId ++
      (optionArguments "now" (now.map Time.Instant.text) ++
        (optionArguments "format" (format.map Format.tag) ++ ["--", conditions, vars])))

section

variable {arity : Nat} {names : List String} {form : Form}

end

end Alerting.CommandLine
