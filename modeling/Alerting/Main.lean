import Alerting.CommandLine.Run
import Alerting.Environment.File

/-!
# Main program

Reads the environment, the environment file and the files that the arguments name,
and prints how the run ends.
-/
namespace Alerting.Main

open CommandLine

def faultOf : IO.Error → FileFault
  | .noFileOrDirectory .. => .missing
  | .inappropriateType _ code details | .permissionDenied _ code details
  | .invalidArgument _ code details | .resourceExhausted _ code details
  | .noSuchThing _ code details
  | .otherError code details => .refused details code.toNat
  | e => .refused (toString e) 5

def readFile (path : String) : IO (Except FileFault String) := do
  try
    let bytes ← IO.FS.readBinFile path
    pure ((String.fromUTF8? bytes).elim (.error .notText) .ok)
  catch e => pure (.error (faultOf e))

/-- The variables in a block of texts, each with a null at its end. -/
def bindings (block : String) : Environment :=
  Dictionary.ofList ((Text.split '\x00' block.toList).filterMap fun entry =>
    match entry.dropWhile (· ≠ '=') with
    | _ :: value => some (String.ofList (entry.takeWhile (· ≠ '=')), String.ofList value)
    | [] => none)

/-- The text of the nearest environment file, going up from a folder whose steps come in reverse. -/
def environmentFile : List String → IO (Option String)
  | [] => readEnvironmentFile ""
  | step :: outer => do
    match ← readEnvironmentFile ("/" ++ "/".intercalate (step :: outer).reverse) with
    | some text => pure (some text)
    | none => environmentFile outer
where
  readEnvironmentFile (folder : String) : IO (Option String) :=
    return (← readFile (folder ++ "/.env")).toOption

/-- The texts of the files that the arguments may name. -/
def diskOf (arguments : List String) : IO Disk := do
  let files ← arguments.mapM fun path => return (path, ← readFile path)
  pure fun path => (files.lookup path).getD (.error .missing)

def usage : String := "\n".intercalate [
  "usage: alertcond needs-vars <conditions> [--ref-id <id>]",
  "       alertcond eval <conditions> <vars> [--ref-id <id>] [--now <time>] [--format <format>]",
  "       alertcond --help | --version"]

def run (arguments : List String) : IO UInt32 := do
  let block ← readFile "/proc/self/environ"
  let env := bindings (block.toOption.getD "")
  let folder ← IO.currentDir
  let file ← environmentFile (Path.steps folder.toString).reverse
  let exit := CommandLine.run (← diskOf arguments) (file.elim env env.load) arguments
  IO.print exit.output
  exit.errors.forM fun line => IO.eprintln line
  if exit.showsUsage then
    if exit.code = 0 then IO.println usage else IO.eprintln usage
  pure exit.code.toUInt32

end Alerting.Main

def main (arguments : List String) : IO UInt32 := Alerting.Main.run arguments
