import Alerting.Yaml.Cursor

/-!
# Folded lines

Inside a scalar one line end is folded to a space and of several all but the
first are kept. Blanks around line ends are dropped.
-/
namespace Alerting.Yaml

/-- What stands between two words of a scalar: blanks, or line ends, the last first. -/
inductive Gap where
  | blanks (reversed : List Char)
  /-- The first line end, unless it was escaped, and the others. -/
  | breaks (first : Option Char) (reversed : List Char)

namespace Gap

def none : Gap := .blanks []

def isNone : Gap → Bool
  | .blanks [] => true
  | _ => false

def hasBreak : Gap → Bool
  | .blanks _ => false
  | .breaks _ _ => true

/-- A gap with one more blank, which counts only before line ends. -/
def addBlank (g : Gap) (c : Char) : Gap :=
  match g with
  | .blanks r => .blanks (c :: r)
  | .breaks first r => .breaks first r

def addBreak (g : Gap) (c : Char) : Gap :=
  match g with
  | .blanks _ => .breaks (some c) []
  | .breaks first r => .breaks first (c :: r)

/-- What a gap leaves of itself in front of a word, the last first. -/
def folded : Gap → List Char
  | .blanks r => r
  | .breaks (some '\n') [] => [' ']
  | .breaks (some '\n') r => r
  | .breaks (some c) r => r ++ [c]
  | .breaks .none r => r

end Gap
end Alerting.Yaml
