import Alerting.Environment
import Alerting.Tag
import Alerting.Text.Upper

/-!
# Settings

Settings come from the environment. A profile has variables of its own, which go
before the plain ones; empty variables count as absent.
-/
namespace Alerting

inductive Format where
  | text
  | json
deriving DecidableEq, Repr

namespace Format

def tag : Format → String
  | text => "text"
  | json => "json"

instance : Tagged Format where
  noun := "output format"
  all := [text, json]
  tag := tag

def lower (text : String) : String := String.ofList (text.toList.map Char.toLower)

/-- The format that a text names in any case. -/
def ofName (text : String) : Except String Format :=
  match Tagged.ofTag? (lower text) with
  | some format => .ok format
  | none => .error (Tagged.unknownTag Format (lower text))

end Format

structure Settings where
  /-- The name of the profile; empty for none. -/
  profile : String
  logFilter : String
  output : Format
  refId : String
deriving DecidableEq

namespace Settings

/-- A variable that is there and not empty. -/
def lookup (env : Environment) (key : String) : Option String :=
  (env.get? key).filter (!·.isEmpty)

/-- The variable of a profile for `key`, or the plain one. -/
def profiled (env : Environment) (profile key : String) : Option String :=
  (if profile.isEmpty then none else lookup env (profile ++ "_" ++ key)).or (lookup env key)

/-- The format that a variable names; text if it names none. -/
def outputOf (name : Option String) : Format :=
  match name.map Format.ofName with
  | some (.ok format) => format
  | _ => .text

/-- The settings of a profile, whose name counts in upper case. -/
def forProfile (env : Environment) (profile : String) : Settings :=
  let p := Text.upper profile
  { profile := p
    logFilter := (profiled env p "ALERTCOND_LOG").getD "warn"
    output := outputOf (profiled env p "ALERTCOND_OUTPUT")
    refId := (profiled env p "ALERTCOND_REF_ID").getD "" }

def ofEnvironment (env : Environment) : Settings :=
  forProfile env (Text.upper ((env.get? "ALERTCOND_PROFILE").getD ""))

def label (s : Settings) : String := if s.profile.isEmpty then "default" else s.profile

def toJson (s : Settings) : Json :=
  .object [("profile", .text s.profile), ("log_filter", .text s.logFilter),
    ("output", .text s.output.tag), ("ref_id", .text s.refId)]

structure Form where
  profile : Option String
  logFilter : Option String
  output : Option Format
  refId : Option String

def slots : List (Json.Slot Json.Draft Form) := [
  .of "profile" Json.readString (·.profile) (fun v s => { s with profile := some v }) false,
  .of "log_filter" Json.readString (·.logFilter) (fun v s => { s with logFilter := some v }) false,
  .of "output" Tagged.read (·.output) (fun v s => { s with output := some v }) false,
  .of "ref_id" Json.readString (·.refId) (fun v s => { s with refId := some v }) false]

def Form.finish (s : Form) : Except Json.Fault Settings := do
  let profile ← Json.required "profile" s.profile
  let logFilter ← Json.required "log_filter" s.logFilter
  let output ← Json.required "output" s.output
  let refId ← Json.required "ref_id" s.refId
  pure ⟨profile, logFilter, output, refId⟩

def read : Json.Draft → Except Json.Fault Settings :=
  Json.readRecord "struct Config" slots ⟨none, none, none, none⟩ Form.finish

end Settings
end Alerting
