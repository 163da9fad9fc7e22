import Alerting.Settings
import Alerting.Time.Text

/-!
# Arguments

The first argument names what to do, and the others give the files and options for
it. Options may stand anywhere up to a double dash. Arguments are looked at from
left to right, so the first one that asks for help or cannot be used decides.
-/
namespace Alerting.CommandLine

inductive Request where
  /-- Lists the inputs of a definition. -/
  | needsVars (conditions : String) (refId : Option String)
  /-- Evaluates a definition. -/
  | eval (conditions vars : String) (refId : Option String) (now : Option Time.Instant)
      (format : Option Format)

/-- What arguments are instead of a request. -/
inductive Notice where
  | help
  | version
  | misuse
deriving DecidableEq

structure Form where
  paths : List String := []
  refId : Option String := none
  now : Option Time.Instant := none
  format : Option Format := none

namespace Form

def addPath (form : Form) (arity : Nat) (path : String) : Except Notice Form :=
  if path.isEmpty || form.paths.length = arity then .error .misuse
  else .ok { form with paths := form.paths ++ [path] }

/-- The form with an option, which may be given once. -/
def addOption (form : Form) (name value : String) : Except Notice Form :=
  match name with
  | "ref-id" =>
    if form.refId.isSome then .error .misuse else .ok { form with refId := some value }
  | "now" =>
    match form.now, Time.readInstant value with
    | none, .ok t => .ok { form with now := some t }
    | _, _ => .error .misuse
  | "format" =>
    match form.format, Format.ofName value with
    | none, .ok f => .ok { form with format := some f }
    | _, _ => .error .misuse
  | _ => .error .misuse

end Form

inductive Shape where
  | plain
  | short (letter : Char)
  | long (name : String) (value : Option String)
  | doubleDash

/-- The shape of an argument. A dash alone is plain. -/
def shape (argument : String) : Shape :=
  match argument.toList with
  | ['-', '-'] => .doubleDash
  | '-' :: '-' :: rest =>
    match rest.dropWhile (· ≠ '=') with
    | [] => .long (String.ofList rest) none
    | _ :: value => .long (String.ofList (rest.takeWhile (· ≠ '='))) (some (String.ofList value))
  | '-' :: letter :: _ => .short letter
  | _ => .plain

/-- Whether an argument can be the value of the option before it. -/
def isPlain (argument : String) : Bool :=
  match shape argument with
  | .plain => true
  | _ => false

/-- Reads the arguments of a request that takes `arity` files and the options `names`. -/
def readForm (arity : Nat) (names : List String) (form : Form) :
    List String → Except Notice Form
  | [] => .ok form
  | argument :: rest =>
    match shape argument with
    | .plain => do readForm arity names (← form.addPath arity argument) rest
    | .short letter => .error (if letter = 'h' then .help else .misuse)
    | .doubleDash => rest.foldlM (fun form path => form.addPath arity path) form
    | .long name (some value) =>
      if name ∈ names then do readForm arity names (← form.addOption name value) rest
      else .error .misuse
    | .long name none =>
      if name = "help" then .error .help
      else if name ∈ names then
        match rest with
        | value :: rest =>
          if isPlain value then do readForm arity names (← form.addOption name value) rest
          else .error .misuse
        | [] => .error .misuse
      else .error .misuse

def readNeedsVars (arguments : List String) : Except Notice Request := do
  let form ← readForm 1 ["ref-id"] {} arguments
  match form.paths with
  | [conditions] => pure (.needsVars conditions form.refId)
  | _ => throw .misuse

def readEval (arguments : List String) : Except Notice Request := do
  let form ← readForm 2 ["ref-id", "now", "format"] {} arguments
  match form.paths with
  | [conditions, vars] => pure (.eval conditions vars form.refId form.now form.format)
  | _ => throw .misuse

/-- What follows a wish for help: nothing, or what the help shall be about. -/
def readHelp (arguments : List String) : Notice :=
  if arguments ∈ [[], ["needs-vars"], ["eval"], ["help"]] then .help else .misuse

def readRequest : List String → Except Notice Request
  | [] => .error .misuse
  | "needs-vars" :: rest => readNeedsVars rest
  | "eval" :: rest => readEval rest
  | "help" :: rest => .error (readHelp rest)
  | argument :: _ =>
    match shape argument with
    | .short 'h' | .long "help" none => .error .help
    | .short 'V' | .long "version" none => .error .version
    | _ => .error .misuse

end Alerting.CommandLine
