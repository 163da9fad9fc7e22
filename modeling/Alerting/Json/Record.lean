import Alerting.Json.Draft

/-!
# Reading records

Records are read from drafts, which may have faults, and from values, which have
none, by the same rules. A record is an object with its fields by name or a list
with its fields in order.
-/
namespace Alerting.Json

/-- What shows of a value before anything inside it is read. -/
inductive Shape (α : Type) where
  | null
  | bool (b : Bool)
  | number (n : Numeral)
  | text (s : String)
  | list (items : List α) (ending : Ending)
  | object (members : List (Except Fault String × α)) (ending : Ending)
  | fault (fault : Fault)

/-- A form of documents that values are read from. -/
class Readable (α : Type) where
  shape : α → Shape α
  /-- Looks at a value that nobody reads. -/
  skip : α → Except Fault Unit
  /-- The whole value. -/
  json : α → Except Fault Json
  /-- Ends a record that was written as a list of some length and has all its fields, before the
  given items and the end of the list. -/
  closeRecord : Nat → List α → Ending → Except Fault Unit

namespace Draft

def shape : Draft → Shape Draft
  | .null => .null
  | .bool b => .bool b
  | .number n =>
    match n.value with
    | .ok n => .number n
    | .error f => .fault f
  | .text s =>
    match s.value with
    | .ok s => .text s
    | .error f => .fault f
  | .list _ items ending => .list items ending
  | .object _ members ending => .object (members.map fun (k, d) => (k.key, d)) ending
  | .missing => .fault .valueCutOff
  | .stray f | .blocked f => .fault f

/-- A record of a text has to end after its last field. -/
def closeRecord (surplus : List Draft) (ending : Ending) : Except Fault Unit :=
  match surplus, ending with
  | [], .closed => .ok ()
  | [], .cutOff => .error .listCutOff
  | [], .closedAfterComma => .error .trailingComma
  | _, _ => .error .trailingCharacters

end Draft

instance : Readable Draft where
  shape := Draft.shape
  skip := Draft.skip
  json := Draft.json
  closeRecord _ := Draft.closeRecord

def valueShape : Json → Shape Json
  | .null => .null
  | .bool b => .bool b
  | .number n => .number n
  | .text s => .text s
  | .list items => .list items .closed
  | .object members => .object (members.map fun (k, v) => (.ok k, v)) .closed

instance : Readable Json where
  shape := valueShape
  skip _ := .ok ()
  json := .ok
  closeRecord length surplus _ :=
    if surplus.isEmpty then .ok () else .error (.wrongLength length "fewer elements in array")

def Shape.mismatch {α : Type} (expected : String) : Shape α → Fault
  | .null => .wrongType .null expected
  | .bool b => .wrongType (.bool b) expected
  | .number n => .wrongType (.number n) expected
  | .text s => .wrongType (.text s) expected
  | .list _ _ => .wrongType .list expected
  | .object _ _ => .wrongType .object expected
  | .fault f => f

variable {α β σ : Type} [Readable α]

open Readable (shape skip closeRecord)

/-! ## Plain values -/

def readNull (x : α) : Except Fault Unit :=
  match shape x with
  | .null => .ok ()
  | s => .error (s.mismatch "unit")

def readString (x : α) : Except Fault String :=
  match shape x with
  | .text s => .ok s
  | s => .error (s.mismatch "a string")

def readFloat (x : α) : Except Fault Float :=
  match shape x with
  | .number n => .ok n.toFloat
  | s => .error (s.mismatch "f64")

def readTime (x : α) : Except Fault Time.Instant :=
  match shape x with
  | .text s => (Time.readInstant s).mapError .badTime
  | s => .error (s.mismatch "an RFC 3339 formatted date and time string")

def readOption (read : α → Except Fault β) (x : α) : Except Fault (Option β) :=
  match shape x with
  | .null => .ok none
  | _ => (read x).map some

def readList (read : α → Except Fault β) (x : α) : Except Fault (List β) :=
  match shape x with
  | .list items ending => do
    let values ← items.mapM read
    ending.closeList
    pure values
  | s => .error (s.mismatch "a sequence")

/-- The entries of an object, of those with one key the last. -/
def readEntries (read : α → Except Fault β) :
    List (Except Fault String × α) → Dictionary β → Except Fault (Dictionary β)
  | [], done => .ok done
  | (key, x) :: rest, done => do
    let name ← key
    let value ← read x
    readEntries read rest (done.insert name value)

def readDictionary (read : α → Except Fault β) (x : α) : Except Fault (Dictionary β) :=
  match shape x with
  | .object members ending => do
    let entries ← readEntries read members .empty
    ending.closeObject
    pure entries
  | s => .error (s.mismatch "a map")

/-! ## Records -/

/-- A field of a record whose parts are gathered in a form of type `σ`. -/
structure Slot (α σ : Type) where
  name : String
  isFilled : σ → Bool
  fill : α → σ → Except Fault σ
  /-- Whether a list may end before this field. -/
  mayEndBefore : Bool

/-- The field that `read` reads and `get` and `set` keep in the form. -/
def Slot.of (name : String) (read : α → Except Fault β) (get : σ → Option β)
    (set : β → σ → σ) (mayEndBefore : Bool) : Slot α σ where
  name := name
  isFilled s := (get s).isSome
  fill x s := (read x).map fun b => set b s
  mayEndBefore := mayEndBefore

/-- Fills the fields that an object has. A field may stand only once, and members with other names
are skipped. -/
def fillMembers (slots : List (Slot α σ)) :
    List (Except Fault String × α) → σ → Except Fault σ
  | [], s => .ok s
  | (key, x) :: rest, s => do
    let name ← key
    match slots.find? fun slot => slot.name = name with
    | none => do
      skip x
      fillMembers slots rest s
    | some slot => do
      if slot.isFilled s then throw (.repeatedField name)
      let s ← slot.fill x s
      fillMembers slots rest s

/-- Fills fields in order from the items of a list; with the fields and the items left over. -/
def fillItems : List (Slot α σ) → List α → σ → Except Fault (σ × List (Slot α σ) × List α)
  | [], items, s => .ok (s, [], items)
  | slots, [], s => .ok (s, slots, [])
  | slot :: slots, x :: items, s => do
    let s ← slot.fill x s
    fillItems slots items s

/-- What a list of a record with `fields` fields has to be. -/
def recordLength (title : String) (fields : Nat) : String :=
  title ++ " with " ++ toString fields ++ if fields = 1 then " element" else " elements"

/-- Reads a record. `finish` decides about the fields that are not there. -/
def readRecord (title : String) (slots : List (Slot α σ)) (start : σ)
    (finish : σ → Except Fault β) (x : α) : Except Fault β :=
  match shape x with
  | .object members ending => do
    let s ← fillMembers slots members start
    ending.closeObject
    finish s
  | .list items ending => do
    let (s, unfilled, surplus) ← fillItems slots items start
    if unfilled.isEmpty then
      closeRecord items.length surplus ending
      finish s
    else
      ending.closeList
      match unfilled.findIdx? fun slot => !slot.mayEndBefore with
      | some i => throw (.wrongLength (items.length + i) (recordLength title slots.length))
      | none => finish s
  | s => .error (s.mismatch title)

def required (name : String) : Option β → Except Fault β
  | some b => .ok b
  | none => .error (.missingField name)

/-! ## Variants -/

/-- Reads a variant from a text: its bare name, or an object whose one member has the name as key
and holds the content. -/
def readVariant (read : String → Option Draft → Except Fault β) : Draft → Except Fault β
  | .text s => do
    let name ← s.value
    read name none
  | .object _ [] ending => .error (if ending = .cutOff then .valueCutOff else .valueExpected)
  | .object _ ((key, content) :: more) ending => do
    let name ←
      match key.shape with
      | .text s => pure s
      | s => throw (s.mismatch "variant identifier")
    let value ← read name (some content)
    match more, ending with
    | [], .closed => pure value
    | [], .cutOff => throw .objectCutOff
    | _, _ => throw .valueExpected
  | .missing => .error .valueCutOff
  | .blocked fault => .error fault
  | _ => .error .valueExpected

end Alerting.Json
