import Alerting.Dictionary

/-!
# Environments

An environment binds the names of variables to texts.
-/
namespace Alerting

abbrev Environment := Dictionary String

namespace Environment

/-- The text of a variable, which is empty for one that is not there. -/
def textOf (env : Environment) (name : String) : String := (env.get? name).getD ""

/-- Binds a variable that is not bound. -/
def supply (env : Environment) (name text : String) : Environment :=
  if env.contains name then env else env.insert name text

end Environment
end Alerting
