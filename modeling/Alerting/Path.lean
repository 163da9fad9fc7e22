import Alerting.Text.Split

/-!
# Paths and files

A path leads to a file by steps between slashes. Empty steps and single points
stay where they are. A disk gives the texts of files, or says why there is none.
-/
namespace Alerting

inductive FileFault where
  /-- The system refuses, with a code. -/
  | refused (reason : String) (code : Nat)
  /-- The bytes are no text. -/
  | notText
deriving DecidableEq

namespace FileFault

def missing : FileFault := refused "No such file or directory" 2

def message : FileFault → String
  | refused reason code => reason ++ " (os error " ++ toString code ++ ")"
  | notText => "stream did not contain valid UTF-8"

end FileFault

abbrev Disk := String → Except FileFault String

namespace Path

def pieces (path : String) : List String := (Text.split '/' path.toList).map String.ofList

/-- Whether a piece leads nowhere. -/
def isIdle (piece : String) : Bool := piece.isEmpty || piece = "."

/-- The steps of a path that lead somewhere. -/
def steps (path : String) : List String := (pieces path).filter (!isIdle ·)

/-- What follows the last point of a name, unless nothing comes before that point. -/
def extensionOf (name : List Char) : Option String :=
  let tail := name.reverse.takeWhile (· ≠ '.')
  let rest := (name.reverse.dropWhile (· ≠ '.')).drop 1
  if rest.isEmpty then none else some (String.ofList tail.reverse)

def extension? (path : String) : Option String :=
  match (steps path).getLast? with
  | none | some ".." => none
  | some name => extensionOf name.toList

def isYaml (path : String) : Bool := extension? path ∈ [some "yml", some "yaml"]

end Path
end Alerting
