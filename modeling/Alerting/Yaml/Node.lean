import Alerting.Yaml.Token

/-!
# Trees of a YAML text

The tokens of a text form one document, whose nodes are scalars, sequences and
mappings. An anchor gives a node a number, and an alias stands for the node that
has its number in the end.
-/
namespace Alerting.Yaml

inductive Node where
  | scalar (tag : Option String) (text : String) (isPlain : Bool)
  | sequence (tag : Option String) (items : List Node)
  | mapping (tag : Option String) (members : List (Node × Node))
  | alias (number : Nat)

instance : Inhabited Node := ⟨.scalar none "" true⟩

structure AnchoredNode where
  number : Nat
  /-- Events of the document in front of the node. -/
  start : Nat
  node : Node

/-- What is known while a document is read. -/
structure Reading where
  rest : List Token
  /-- What the handles of tags mean. -/
  handles : List (String × String)
  /-- The numbers of the names of anchors. -/
  numbers : List (String × Nat)
  /-- The nodes of numbers, each with the events in front of it. -/
  nodes : List AnchoredNode
  /-- Scalars, aliases and both ends of collections. -/
  events : Nat

namespace Reading

/-- A step of reading; none for a text that is no document. -/
abbrev Step (α : Type) := StateT Reading Option α

def peek : Step (Option Token) := do return (← get).rest.head?

def pass : Step Unit := modify fun r => { r with rest := r.rest.drop 1 }

def count (n : Nat) : Step Unit := modify fun r => { r with events := r.events + n }

def passIf (t : Token) : Step Bool := do
  if (← peek) = some t then
    pass
    return true
  else return false

def isNext (ts : List Token) : Step Bool := do return ((← peek).map ts.contains).getD false

def resolveTag (handle suffix : String) : Step String := do
  if handle.isEmpty then return suffix
  else
    let (some e) := (← get).handles.find? fun e => e.1 = handle | failure
    return e.2 ++ suffix

def tag? : Step (Option String) := do
  match ← peek with
  | some (.tag handle suffix) => do
    pass
    return some (← resolveTag handle suffix)
  | _ => return none

def anchor? : Step (Option String) := do
  match ← peek with
  | some (.anchor name) => do
    pass
    return some name
  | _ => return none

/-- The anchor and the tag of the next node, in either order. -/
def properties : Step (Option String × Option String) := do
  match ← anchor? with
  | some name => return (some name, ← tag?)
  | none => do
    let tag ← tag?
    return (← anchor?, tag)

/-- The number of a new anchor, which is how many names have one, and its place. A name keeps its
last number. -/
def number (name : String) : Step (Nat × Nat) := do
  let r ← get
  let n := r.numbers.length
  set { r with numbers := (name, n) :: r.numbers.filter fun e => e.1 ≠ name }
  return (n, r.events)

/-- Gives a number, which was given out at a place, its node. -/
def record (number : Option (Nat × Nat)) (node : Node) : Step Node := do
  match number with
  | some (n, start) => modify fun r => { r with nodes := ⟨n, start, node⟩ :: r.nodes }
  | none => pure ()
  return node

/-- The node of an alias, whose name must have a number. -/
def aliasOf (name : String) : Step Node := do
  let (some e) := (← get).numbers.find? fun e => e.1 = name | failure
  count 1
  return .alias e.2

def emptyScalar : Step Node := do
  count 1
  return .scalar none "" true

/-- The tag of a scalar; a lone exclamation mark makes no difference. -/
def scalarTag (tag : Option String) : Option String := tag.filter (· ≠ "!")

mutual

/-- A node. Block collections may stand only where blocks may, and a sequence whose entries are
not indented only behind a key. -/
def node (fuel : Nat) (inBlock unindented : Bool) : Step Node :=
  match fuel with
  | 0 => failure
  | fuel + 1 => do
    match ← peek with
    | some (.alias name) => do
      pass
      aliasOf name
    | _ =>
      let (anchor, tag) ← properties
      let number ← anchor.mapM number
      match ← peek with
      | some (.scalar text isPlain) => do
        pass
        count 1
        record number (.scalar (scalarTag tag) text isPlain)
      | some .openFlowSequence => do
        pass
        count 2
        let items ← flowItems fuel true
        record number (.sequence tag items)
      | some .openFlowMapping => do
        pass
        count 2
        let members ← flowMembers fuel true
        record number (.mapping tag members)
      | some .openSequence => do
        if !inBlock then failure
        pass
        count 2
        let items ← blockItems fuel
        record number (.sequence tag items)
      | some .openMapping => do
        if !inBlock then failure
        pass
        count 2
        let members ← blockMembers fuel
        record number (.mapping tag members)
      | next => do
        if unindented && next = some .blockEntry then
          count 2
          let items ← unindentedItems fuel
          record number (.sequence tag items)
        else if anchor.isSome || tag.isSome then
          count 1
          record number (.scalar tag "" true)
        else failure

/-- A node, unless one of `ends` comes next. -/
def nodeBefore (fuel : Nat) (inBlock unindented : Bool) (ends : List Token) : Step Node :=
  match fuel with
  | 0 => failure
  | fuel + 1 => do
    if ← isNext ends then emptyScalar
    else node fuel inBlock unindented

/-- The entries of an indented sequence, with its end. -/
def blockItems (fuel : Nat) : Step (List Node) :=
  match fuel with
  | 0 => failure
  | fuel + 1 => do
    if ← passIf .blockEntry then
      let item ← nodeBefore fuel true false [.blockEntry, .closeBlock]
      return item :: (← blockItems fuel)
    else if ← passIf .closeBlock then return []
    else failure

/-- The entries of a sequence that is not indented. -/
def unindentedItems (fuel : Nat) : Step (List Node) :=
  match fuel with
  | 0 => failure
  | fuel + 1 => do
    if ← passIf .blockEntry then
      let item ← nodeBefore fuel true false [.blockEntry, .key, .value, .closeBlock]
      return item :: (← unindentedItems fuel)
    else return []

/-- The members of a block mapping, with its end. -/
def blockMembers (fuel : Nat) : Step (List (Node × Node)) :=
  match fuel with
  | 0 => failure
  | fuel + 1 => do
    if ← passIf .key then
      let key ← nodeBefore fuel true true [.key, .value, .closeBlock]
      let value ← blockValue fuel
      return (key, value) :: (← blockMembers fuel)
    else if ← passIf .closeBlock then return []
    else failure

def blockValue (fuel : Nat) : Step Node :=
  match fuel with
  | 0 => failure
  | fuel + 1 => do
    if ← passIf .value then nodeBefore fuel true true [.key, .value, .closeBlock]
    else emptyScalar

/-- The items of a flow sequence, with its end. A key among them makes a mapping of its own. -/
def flowItems (fuel : Nat) (isFirst : Bool) : Step (List Node) :=
  match fuel with
  | 0 => failure
  | fuel + 1 => do
    if ← passIf .closeFlowSequence then return []
    unless isFirst do
      unless ← passIf .flowEntry do failure
    if ← passIf .closeFlowSequence then return []
    let item ←
      if ← passIf .key then do
        count 2
        let member ← flowPair fuel
        pure (Node.mapping none [member])
      else node fuel false false
    return item :: (← flowItems fuel false)

/-- The one member of a mapping inside a flow sequence. The token behind a missing key is passed. -/
def flowPair (fuel : Nat) : Step (Node × Node) :=
  match fuel with
  | 0 => failure
  | fuel + 1 => do
    let key ←
      if ← isNext [.value, .flowEntry, .closeFlowSequence] then do
        pass
        emptyScalar
      else node fuel false false
    let value ←
      if ← passIf .value then nodeBefore fuel false false [.flowEntry, .closeFlowSequence]
      else emptyScalar
    return (key, value)

def flowMembers (fuel : Nat) (isFirst : Bool) : Step (List (Node × Node)) :=
  match fuel with
  | 0 => failure
  | fuel + 1 => do
    if ← passIf .closeFlowMapping then return []
    unless isFirst do
      unless ← passIf .flowEntry do failure
    if ← passIf .closeFlowMapping then return []
    let member ←
      if ← passIf .key then do
        let key ← nodeBefore fuel false false [.value, .flowEntry, .closeFlowMapping]
        let value ←
          if ← passIf .value then nodeBefore fuel false false [.flowEntry, .closeFlowMapping]
          else emptyScalar
        pure (key, value)
      else do
        let key ← node fuel false false
        let value ← emptyScalar
        pure (key, value)
    return member :: (← flowMembers fuel false)

end

def knownHandles : List (String × String) := [("!", "!"), ("!!", "tag:yaml.org,2002:")]

/-- The directives of a document. A handle may be given a meaning once, and so may the version. -/
def directives (hasVersion : Bool) (handles : List (String × String)) :
    List Token → Option (List (String × String) × List Token)
  | .directive (.version major minor) :: rest =>
    if hasVersion || major ≠ 1 || (minor ≠ 1 && minor ≠ 2) then none
    else directives true handles rest
  | .directive (.tag handle meaning) :: rest =>
    if handles.any fun e => e.1 = handle then none
    else directives hasVersion (handles ++ [(handle, meaning)]) rest
  | rest => some (handles ++ knownHandles, rest)

/-- Ends of documents, and nothing else. -/
def isOver (tokens : List Token) : Bool := tokens.all (· = .documentEnd)

end Reading

/-- A document: its root, the nodes of the numbers of anchors, and its number of events. -/
structure Document where
  root : Node
  nodes : List AnchoredNode
  events : Nat

/-- The node of a number: of those that share it the one that starts last. -/
def Document.nodeOf? (d : Document) (number : Nat) : Option Node :=
  let later (found : Option AnchoredNode) (a : AnchoredNode) : Option AnchoredNode :=
    if a.number = number && found.elim true (fun f => f.start ≤ a.start) then some a
    else found
  (d.nodes.foldl later none).map AnchoredNode.node

/-- The one document of a list of tokens. A document that is not there is empty. -/
def Document.ofTokens? (tokens : List Token) : Option Document := do
  let isExplicit :=
    match tokens with
    | .directive _ :: _ | .documentStart :: _ => true
    | _ => false
  if tokens.isEmpty then some ⟨.scalar none "" true, [], 0⟩
  else
    let (handles, rest) ← Reading.directives false [] tokens
    let rest ←
      if isExplicit then
        match rest with
        | .documentStart :: rest => some rest
        | _ => none
      else some rest
    let ends : List Token := if isExplicit then [.documentStart, .documentEnd] else []
    let isEmpty :=
      isExplicit && ((rest.head?.map fun t =>
        ends.contains t || (match t with | .directive _ => true | _ => false)).getD true)
    let read : Reading.Step Node :=
      if isEmpty then Reading.emptyScalar else Reading.node (4 * tokens.length + 4) true false
    let (root, r) ← read.run ⟨rest, handles, [], [], 0⟩
    if Reading.isOver r.rest then some ⟨root, r.nodes, r.events⟩ else none

end Alerting.Yaml
