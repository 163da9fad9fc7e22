import Alerting.Condition

/-!
# Commands

A command is a list of conditions with one verdict. The first condition starts
the chain and each later one joins it by its operator, once for firing and once
for no data. A verdict of no data leaves out all other evidence.
-/
namespace Alerting

/-- Conditions that are evaluated as one alert. -/
structure Command where
  /-- The reference ID that names the verdict; empty for none. -/
  refId : String
  conditions : List Condition
deriving BEq

/-- The texts of a list without repetitions, in the order of their first place. -/
def distinct : List String → List String
  | [] => []
  | x :: xs => x :: (distinct xs).filter (· ≠ x)

namespace Command

def empty : Command := ⟨"", []⟩

def needsVars (cmd : Command) : List String := distinct (cmd.conditions.map Condition.input)

/-- Joins flags from left to right. The operator of the first flag is not used. -/
def chain : List (Operator × Bool) → Bool
  | [] => false
  | (_, first) :: rest => rest.foldl (fun flag (op, next) => op.apply flag next) first

def outcomes (cmd : Command) (vars : Vars) : List (Operator × Outcome) :=
  cmd.conditions.map fun c => (c.operator, c.evaluate vars)

def isFiring (cmd : Command) (vars : Vars) : Bool :=
  chain ((cmd.outcomes vars).map fun (op, o) => (op, o.firing))

def hasNoData (cmd : Command) (vars : Vars) : Bool :=
  chain ((cmd.outcomes vars).map fun (op, o) => (op, o.noData))

/-- The verdict as a number: one for firing, zero for not, null for no data. The time of the
evaluation is not looked at. -/
def verdict (cmd : Command) (_now : Time.Instant) (vars : Vars) : Number :=
  let name := if cmd.refId.isEmpty then none else some cmd.refId
  if cmd.hasNoData vars then ⟨name, none, none, some [Evidence.noData]⟩
  else
    ⟨name, none, some (if cmd.isFiring vars then 1.0 else 0.0),
      some ((cmd.outcomes vars).flatMap fun (_, o) => o.evidence)⟩

def execute (cmd : Command) (now : Time.Instant) (vars : Vars) : Batch :=
  [.number (cmd.verdict now vars)]

end Command
end Alerting
