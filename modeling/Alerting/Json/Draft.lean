import Alerting.Json.Token
import Alerting.Json.Value

/-!
# Drafts of documents

A draft is the tree of a text as it stands: members in their order, repeated
keys among them, and each fault at its place. Every text has a draft. A reader
walks it from the front and so meets the first fault that concerns it.
-/
namespace Alerting.Json

/-- How a list or an object of a text ends. -/
inductive Ending where
  | closed
  /-- The text is over where a comma or the end may come. -/
  | cutOff
  | cutOffAfterComma
  | closedAfterComma
  /-- Something else stands where a comma or the end may come. -/
  | crossed
deriving DecidableEq

/-- The tree of a text, with its faults. -/
inductive Draft where
  | null
  | bool (b : Bool)
  | number (n : Scanned Numeral)
  | text (s : Scanned String)
  | list (tooDeep : Bool) (items : List Draft) (ending : Ending)
  | object (tooDeep : Bool) (members : List (Draft × Draft)) (ending : Ending)
  /-- The text is over where a value may come. -/
  | missing
  /-- Characters that are no value. -/
  | stray (fault : Fault)
  /-- The mark that has to come before the value is not there. -/
  | blocked (fault : Fault)

instance : Inhabited Draft := ⟨.null⟩

/-- A text as a tree, and whether anything follows the tree. -/
structure Document where
  root : Draft
  trailing : Bool

/-- A list or an object that is open where the reader stands. -/
inductive Frame where
  | list (tooDeep : Bool) (done : List Draft)
  | object (tooDeep : Bool) (done : List (Draft × Draft)) (key : Draft)

namespace Document

/-- How many lists and objects may be open at once. -/
def depthLimit : Nat := 127

/-- Whether what opens inside of `frames` is nested too deeply. -/
def isTooDeep (frames : List Frame) : Bool := depthLimit ≤ frames.length

/-- The tree of a text that stops after `v`. -/
def abandon (frames : List Frame) (v : Draft) : Document :=
  ⟨frames.foldl (fun v frame =>
    match frame with
    | .list deep done => .list deep (v :: done).reverse .cutOff
    | .object deep done key => .object deep ((key, v) :: done).reverse .cutOff) v, false⟩

/-- What stands where a key may come. -/
def headDraft : Token → Draft
  | .openList => .list false [] .cutOff
  | .openObject => .object false [] .cutOff
  | .null => .null
  | .bool b => .bool b
  | .number n => .number n
  | .text s => .text s
  | .stray fault => .stray fault
  | .closeList | .closeObject | .comma | .colon => .stray .valueExpected

mutual

/-- Goes on where a value may come. -/
def value (frames : List Frame) : List Token → Document
  | [] => abandon frames .missing
  | .null :: ts => after frames .null ts
  | .bool b :: ts => after frames (.bool b) ts
  | .number n :: ts => after frames (.number n) ts
  | .text s :: ts => after frames (.text s) ts
  | .stray fault :: _ => abandon frames (.stray fault)
  | .openList :: ts =>
    match ts with
    | [] => abandon frames (.list (isTooDeep frames) [] .cutOff)
    | .closeList :: ts => after frames (.list (isTooDeep frames) [] .closed) ts
    | t :: ts => value (.list (isTooDeep frames) [] :: frames) (t :: ts)
  | .openObject :: ts =>
    match ts with
    | [] => abandon frames (.object (isTooDeep frames) [] .cutOff)
    | .closeObject :: ts => after frames (.object (isTooDeep frames) [] .closed) ts
    | t :: ts => member frames (isTooDeep frames) [] (t :: ts)
  | .closeList :: _ | .closeObject :: _ | .comma :: _ | .colon :: _ =>
    abandon frames (.stray .valueExpected)

/-- Goes on where a key may come, inside an object with the members `done`, the last first. -/
def member (frames : List Frame) (deep : Bool) (done : List (Draft × Draft)) :
    List Token → Document
  | .text key :: .colon :: ts => value (.object deep done (.text key) :: frames) ts
  | [.text key] => abandon (.object deep done (.text key) :: frames) (.blocked .objectCutOff)
  | .text key :: _ :: _ =>
    abandon (.object deep done (.text key) :: frames) (.blocked .colonExpected)
  | t :: _ => abandon (.object deep done (headDraft t) :: frames) (.blocked .keyExpected)
  | [] => abandon frames (.object deep done.reverse .cutOff)

/-- Goes on after the value `v`. -/
def after : List Frame → Draft → List Token → Document
  | [], v, ts => ⟨v, !ts.isEmpty⟩
  | .list deep done :: frames, v, ts =>
    match ts with
    | [] => abandon frames (.list deep (v :: done).reverse .cutOff)
    | .closeList :: ts => after frames (.list deep (v :: done).reverse .closed) ts
    | [.comma] => abandon frames (.list deep (v :: done).reverse .cutOffAfterComma)
    | .comma :: .closeList :: _ =>
      abandon frames (.list deep (v :: done).reverse .closedAfterComma)
    | .comma :: t :: ts => value (.list deep (v :: done) :: frames) (t :: ts)
    | _ :: _ => abandon frames (.list deep (v :: done).reverse .crossed)
  | .object deep done key :: frames, v, ts =>
    match ts with
    | [] => abandon frames (.object deep ((key, v) :: done).reverse .cutOff)
    | .closeObject :: ts => after frames (.object deep ((key, v) :: done).reverse .closed) ts
    | [.comma] => abandon frames (.object deep ((key, v) :: done).reverse .cutOffAfterComma)
    | .comma :: .closeObject :: _ =>
      abandon frames (.object deep ((key, v) :: done).reverse .closedAfterComma)
    | .comma :: t :: ts => member frames deep ((key, v) :: done) (t :: ts)
    | _ :: _ => abandon frames (.object deep ((key, v) :: done).reverse .crossed)

end

def ofText (text : String) : Document := value [] (Token.scan text.toList)

end Document

namespace Ending

def closeList : Ending → Except Fault Unit
  | closed => .ok ()
  | cutOff => .error .listCutOff
  | cutOffAfterComma => .error .valueCutOff
  | closedAfterComma => .error .trailingComma
  | crossed => .error .listEndExpected

def closeObject : Ending → Except Fault Unit
  | closed => .ok ()
  | cutOff => .error .objectCutOff
  | cutOffAfterComma => .error .valueCutOff
  | closedAfterComma => .error .trailingComma
  | crossed => .error .objectEndExpected

/-- What a reader who skips a list says at its end. -/
def skipList : Ending → Except Fault Unit
  | closedAfterComma => .error .valueExpected
  | ending => ending.closeList

/-- What a reader who skips an object says at its end. -/
def skipObject : Ending → Except Fault Unit
  | cutOffAfterComma => .error .objectCutOff
  | closedAfterComma => .error .keyExpected
  | ending => ending.closeObject

end Ending

namespace Draft

def key : Draft → Except Fault String
  | .text s => s.value
  | _ => .error .keyExpected

def skipKey : Draft → Except Fault Unit
  | .text s => s.skip
  | _ => .error .keyExpected

mutual

def json : Draft → Except Fault Json
  | .null => .ok .null
  | .bool b => .ok (.bool b)
  | .number n => n.value.map .number
  | .text s => s.value.map .text
  | .list deep items ending => do
    if deep then throw .nestedTooDeep
    let values ← jsonItems items
    ending.closeList
    pure (.list values)
  | .object deep members ending => do
    if deep then throw .nestedTooDeep
    let values ← jsonMembers members []
    ending.closeObject
    pure (.object values)
  | .missing => .error .valueCutOff
  | .stray fault | .blocked fault => .error fault

def jsonItems : List Draft → Except Fault (List Json)
  | [] => .ok []
  | d :: ds => do
    let v ← d.json
    let vs ← jsonItems ds
    pure (v :: vs)

/-- The members of an object by key, of those with one key the last. -/
def jsonMembers : List (Draft × Draft) → List (String × Json) →
    Except Fault (List (String × Json))
  | [], done => .ok done
  | (k, d) :: rest, done => do
    let name ← k.key
    let v ← d.json
    jsonMembers rest (insertEntry name v done)

end

mutual

/-- Looks whether a value that nobody reads has the form of a value. -/
def skip : Draft → Except Fault Unit
  | .null | .bool _ => .ok ()
  | .number n => n.skip
  | .text s => s.skip
  | .list _ items ending => do
    skipItems items
    ending.skipList
  | .object _ members ending => do
    skipMembers members
    ending.skipObject
  | .missing => .error .valueCutOff
  | .stray fault | .blocked fault => .error fault

def skipItems : List Draft → Except Fault Unit
  | [] => .ok ()
  | d :: ds => do
    d.skip
    skipItems ds

def skipMembers : List (Draft × Draft) → Except Fault Unit
  | [] => .ok ()
  | (k, d) :: rest => do
    k.skipKey
    d.skip
    skipMembers rest

end

end Draft

/-- Reads a whole text. Whatever follows its value is refused last. -/
def readText {α : Type} (read : Draft → Except Fault α) (text : String) : Except Fault α := do
  let document := Document.ofText text
  let a ← read document.root
  if document.trailing then throw .trailingCharacters
  pure a

def ofText (text : String) : Except Fault Json := readText Draft.json text

end Alerting.Json
