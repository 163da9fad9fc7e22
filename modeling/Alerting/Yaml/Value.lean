import Alerting.Decimal.Reading
import Alerting.Json.Value
import Alerting.Yaml.Node

/-!
# Values of a YAML text

Plain scalars are read by the core schema: null, booleans, whole numbers and
numbers with a fraction, and all others are texts. Keys are the texts of their
scalars. Tags of an application have no value.
-/
namespace Alerting.Yaml

def isNullWord (text : String) : Bool := ["~", "null", "Null", "NULL"].contains text

def boolWord? (text : String) : Option Bool :=
  if ["true", "True", "TRUE"].contains text then some true
  else if ["false", "False", "FALSE"].contains text then some false
  else none

def digitIn? (base : Nat) (c : Char) : Option Nat := (Text.hexDigit? c).filter (· < base)

def digitsIn? (base : Nat) (digits : List Char) : Option Nat :=
  if digits.isEmpty then none
  else digits.foldlM (fun n c => (digitIn? base c).map (base * n + ·)) 0

/-- Whether a text looks like a number with zeros in front, which is a text. -/
def isZeroPadded (text : List Char) : Bool :=
  match (Decimal.splitSign text).2 with
  | '0' :: d :: rest => (d :: rest).all Char.isDigit
  | _ => false

/-- The magnitude of a whole number: digits, or digits of another base after its mark. -/
def magnitude? : List Char → Option Nat
  | '0' :: 'x' :: digits => digitsIn? 16 digits
  | '0' :: 'o' :: digits => digitsIn? 8 digits
  | '0' :: 'b' :: digits => digitsIn? 2 digits
  | digits => digitsIn? 10 digits

def integer? (text : List Char) : Option Int :=
  if isZeroPadded text then none
  else
    let (negative, digits) := Decimal.splitSign text
    (magnitude? digits).map fun n => if negative then -(n : Int) else n

/-- What a text says as a whole number: nothing, or a number, which may have no value. -/
inductive IntegerWord where
  | other
  | value (n : Int)
  | tooLarge

/-- Numbers of more than 128 bits are none, and those of more than 64 bits have no value. -/
def integerWord (text : List Char) : IntegerWord :=
  match integer? text with
  | none => .other
  | some n =>
    if -0x8000000000000000 ≤ n ∧ n < 0x10000000000000000 then .value n
    else if -0x80000000000000000000000000000000 ≤ n ∧
        n < 0x100000000000000000000000000000000 then .tooLarge
    else .other

def floatWord? (text : String) : Option Float :=
  if [".inf", ".Inf", ".INF", "+.inf", "+.Inf", "+.INF"].contains text then some Decimal.infinity
  else if ["-.inf", "-.Inf", "-.INF"].contains text then some (-Decimal.infinity)
  else if [".nan", ".NaN", ".NAN"].contains text then some Decimal.notANumber
  else (Decimal.readFloat? text).filter Float.isFinite

def plainValue? (text : String) : Option Json :=
  if text.isEmpty || isNullWord text then some .null
  else
    match boolWord? text, integerWord text.toList with
    | some b, _ => some (.bool b)
    | none, .value n => some (.number (.whole n))
    | none, .tooLarge => none
    | none, .other =>
      if isZeroPadded text.toList then some (.text text)
      else
        match floatWord? text with
        | some x => some (Json.ofFloat x)
        | none => some (.text text)

/-- The value of a scalar with a tag that is not of an application. -/
def taggedValue? (tag text : String) : Option Json :=
  if tag = "tag:yaml.org,2002:bool" then (boolWord? text).map .bool
  else if tag = "tag:yaml.org,2002:int" then
    match integerWord text.toList with
    | .value n => some (.number (.whole n))
    | .tooLarge | .other => none
  else if tag = "tag:yaml.org,2002:float" then (floatWord? text).map Json.ofFloat
  else if tag = "tag:yaml.org,2002:null" then if isNullWord text then some .null else none
  else some (.text text)

def isApplicationTag (tag : Option String) : Bool :=
  tag.elim false fun t => t.toList.head? = some '!'

def scalarValue? (tag : Option String) (text : String) (isPlain : Bool) : Option Json :=
  match tag with
  | some t => if isApplicationTag tag then none else taggedValue? t text
  | none => if isPlain then plainValue? text else some (.text text)

namespace Document

/-- A step of reading values, which counts the aliases that have been followed. -/
abbrev Step (α : Type) := StateT Nat Option α

/-- The node of an alias. No more aliases may be followed than a hundred for each event. -/
def follow (d : Document) (number : Nat) : Step Node := do
  let followed ← get
  if d.events * 100 < followed + 1 then failure
  set (followed + 1)
  match d.nodeOf? number with
  | some node => return node
  | none => failure

def resolve (d : Document) : Node → Step Node
  | .alias number => d.follow number
  | node => return node

def keyText (d : Document) (node : Node) : Step String := do
  match ← d.resolve node with
  | .scalar _ text _ => return text
  | _ => failure

/-- The value of a node with at most `depth` levels of collections. -/
def nodeValue (d : Document) (depth : Nat) (node : Node) : Step Json := do
  match ← d.resolve node, depth with
  | .scalar tag text isPlain, _ =>
    match scalarValue? tag text isPlain with
    | some v => return v
    | none => failure
  | .sequence tag items, depth + 1 =>
    if isApplicationTag tag then failure
    return .list (← items.mapM (d.nodeValue depth))
  | .mapping tag members, depth + 1 =>
    if isApplicationTag tag then failure
    let values ← members.mapM fun (k, v) => do
      return (← d.keyText k, ← d.nodeValue depth v)
    return .object (values.foldl (fun done e => insertEntry e.1 e.2 done) [])
  | _, _ => failure

/-- How many levels of collections a value may have. -/
def depthLimit : Nat := 128

def value? (d : Document) : Option Json :=
  ((d.nodeValue depthLimit d.root).run 0).map Prod.fst

end Document

def ofText? (text : String) : Option Json := do
  let tokens ← Token.ofText? text
  let document ← Document.ofTokens? tokens
  document.value?

end Alerting.Yaml
