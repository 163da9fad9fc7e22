import Alerting.Yaml.Scalar
import Alerting.Yaml.Tag

/-!
# Tokens of a YAML text

A text is cut into marks and scalars, and its indentation into marks that open and
close blocks. Whether a scalar is a key shows only at the colon after it, so the
mark of a key is put in front of it then, at the place that was noted for it.
-/
namespace Alerting.Yaml

inductive Token where
  | directive (d : Directive)
  | documentStart
  | documentEnd
  | openSequence
  | openMapping
  | closeBlock
  | openFlowSequence
  | closeFlowSequence
  | openFlowMapping
  | closeFlowMapping
  | blockEntry
  | flowEntry
  | key
  | value
  | alias (name : String)
  | anchor (name : String)
  | tag (handle suffix : String)
  | scalar (text : String) (isPlain : Bool)
deriving DecidableEq

structure KeyPlace where
  /-- Something else than a key may not start here. -/
  isRequired : Bool
  /-- Tokens in front of the place. -/
  before : Nat
  index : Nat
  line : Nat
  column : Nat

structure Scan where
  cursor : Cursor
  /-- The tokens so far, the last first. -/
  tokens : List Token
  /-- The column of the innermost block. -/
  indent : Int
  /-- The columns of the blocks around it, the innermost first. -/
  outer : List Int
  /-- Whether a key may start here. -/
  keyAllowed : Bool
  /-- The place of a possible key in each open flow collection and outside of them, the innermost
  first. -/
  keys : List (Option KeyPlace)

namespace Scan

/-- A text without leading marks of byte order; the second one counts as a column. -/
def start (text : List Char) : Scan :=
  let cursor :=
    match text with
    | '\ufeff' :: '\ufeff' :: rest => Cursor.next (.start ('\ufeff' :: rest))
    | '\ufeff' :: rest | rest => Cursor.start rest
  ⟨cursor, [], -1, [], true, [none]⟩

def inFlow (s : Scan) : Bool := 1 < s.keys.length

def emit (s : Scan) (t : Token) : Scan := { s with tokens := t :: s.tokens }

/-- Puts a token behind the first `before` tokens. -/
def insert (s : Scan) (before : Nat) (t : Token) : Scan :=
  let behind := s.tokens.length - before
  { s with tokens := s.tokens.take behind ++ t :: s.tokens.drop behind }

def skip (s : Scan) (n : Nat) : Scan := { s with cursor := s.cursor.skip n }

/-- Goes on where only `rest` is left. -/
def skipTo (s : Scan) (rest : List Char) : Scan := { s with cursor := s.cursor.skipTo rest }

/-! ## Keys -/

/-- Gives up the possible key, unless one has to be here. -/
def dropKey (s : Scan) : Option Scan :=
  match s.keys with
  | some k :: keys => if k.isRequired then none else some { s with keys := none :: keys }
  | _ => some s

/-- Notes that a key may start here. In a block a key has to start at its column. -/
def noteKey (s : Scan) : Option Scan :=
  if s.keyAllowed then do
    let s ← s.dropKey
    let c := s.cursor
    let place : KeyPlace :=
      ⟨!s.inFlow && s.indent = c.column, s.tokens.length, c.index, c.line, c.column⟩
    some { s with keys := some place :: s.keys.drop 1 }
  else some s

/-- How far behind its start the colon of a key may come. -/
def keyLength : Nat := 1024

/-- Gives up the possible keys that are on another line or too long by now. -/
def dropOldKeys (s : Scan) : Option Scan := do
  let keys ← s.keys.mapM fun key =>
    match key with
    | none => some none
    | some k =>
      if k.line < s.cursor.line || k.index + keyLength < s.cursor.index then
        if k.isRequired then none else some none
      else some (some k)
  some { s with keys := keys }

/-! ## Blocks -/

/-- Opens a block at a column that is right of the innermost one, behind the first `before`
tokens. -/
def openBlock (s : Scan) (column : Nat) (before : Nat) (t : Token) : Scan :=
  if !s.inFlow && s.indent < column then
    { s.insert before t with indent := column, outer := s.indent :: s.outer }
  else s

/-- The blocks that are left when all right of `column` are closed, and the marks of their ends. -/
def closedTo (column : Int) (indent : Int) (closed : List Token) :
    List Int → Int × List Int × List Token
  | [] => (indent, [], closed)
  | o :: outer =>
    if column < indent then closedTo column o (.closeBlock :: closed) outer
    else (indent, o :: outer, closed)

def closeBlocks (s : Scan) (column : Int) : Scan :=
  if s.inFlow then s
  else
    let (indent, outer, closed) := closedTo column s.indent [] s.outer
    { s with indent := indent, outer := outer, tokens := closed ++ s.tokens }

/-! ## Tokens -/

/-- What is left behind blanks, comments and line ends, and whether a key may start there. A tab
is no blank where a key may start. -/
def skipGap (inFlow keyAllowed inComment : Bool) : List Char → Bool × List Char
  | [] => (keyAllowed, [])
  | c :: rest =>
    if isBreak c then skipGap inFlow (keyAllowed || !inFlow) false rest
    else if inComment || c = '#' then skipGap inFlow keyAllowed true rest
    else if c = ' ' || (c = '\t' && (inFlow || !keyAllowed)) then
      skipGap inFlow keyAllowed false rest
    else (keyAllowed, c :: rest)

/-- Starts a document or its directives or ends one. -/
def outsideBlocks (s : Scan) : Option Scan := do
  let s ← (s.closeBlocks (-1)).dropKey
  some { s with keyAllowed := false }

def scanDirective (s : Scan) (text : List Char) : Option Scan := do
  let s ← s.outsideBlocks
  let (d, rest) ← directive? text
  some ((s.emit (.directive d)).skipTo rest)

def scanDocumentMark (s : Scan) (t : Token) : Option Scan := do
  let s ← s.outsideBlocks
  some ((s.emit t).skip 3)

def scanFlowOpen (s : Scan) (t : Token) : Option Scan := do
  let s ← s.noteKey
  some (({ s with keys := none :: s.keys, keyAllowed := true }.emit t).skip 1)

def scanFlowClose (s : Scan) (t : Token) : Option Scan := do
  let s ← s.dropKey
  let keys := if s.inFlow then s.keys.drop 1 else s.keys
  some (({ s with keys := keys, keyAllowed := false }.emit t).skip 1)

def scanFlowEntry (s : Scan) : Option Scan := do
  let s ← s.dropKey
  some (({ s with keyAllowed := true }.emit .flowEntry).skip 1)

/-- An entry of a block sequence, which may open it. -/
def scanBlockEntry (s : Scan) : Option Scan := do
  if !s.inFlow && !s.keyAllowed then none
  let s ← (s.openBlock s.cursor.column s.tokens.length .openSequence).dropKey
  some (({ s with keyAllowed := true }.emit .blockEntry).skip 1)

/-- A key with a mark of its own, which may open a block mapping. -/
def scanKey (s : Scan) : Option Scan := do
  if !s.inFlow && !s.keyAllowed then none
  let s ← (s.openBlock s.cursor.column s.tokens.length .openMapping).dropKey
  some (({ s with keyAllowed := !s.inFlow }.emit .key).skip 1)

/-- The colon behind a key, which puts the mark of the key in front of it. -/
def scanValue (s : Scan) : Option Scan :=
  match s.keys with
  | some k :: keys =>
    let s := (s.insert k.before .key).openBlock k.column k.before .openMapping
    some (({ s with keys := none :: keys, keyAllowed := false }.emit .value).skip 1)
  | _ => do
    if !s.inFlow && !s.keyAllowed then none
    let s := s.openBlock s.cursor.column s.tokens.length .openMapping
    some (({ s with keyAllowed := !s.inFlow }.emit .value).skip 1)

def scanAnchor (s : Scan) (t : String → Token) (text : List Char) : Option Scan := do
  let s ← s.noteKey
  let (name, rest) ← anchorName? text
  some (({ s with keyAllowed := false }.emit (t name)).skipTo rest)

def scanTag (s : Scan) (text : List Char) : Option Scan := do
  let s ← s.noteKey
  let (handle, suffix, rest) ← tag? text
  if !mayFollowTag s.inFlow rest then none
  some (({ s with keyAllowed := false }.emit (.tag handle suffix)).skipTo rest)

def emitScalar (s : Scan) (isPlain : Bool) (r : ScalarText) : Scan :=
  (s.emit (.scalar (String.ofList r.text) isPlain)).skipTo r.rest

def scanBlockScalar (s : Scan) (folds : Bool) (text : List Char) : Option Scan := do
  let s ← s.dropKey
  let r ← block folds s.indent text
  some ({ s with keyAllowed := true }.emitScalar false r)

def scanQuoted (s : Scan) (r : Option ScalarText) : Option Scan := do
  let s ← s.noteKey
  some ({ s with keyAllowed := false }.emitScalar false (← r))

def scanPlain (s : Scan) : Option Scan := do
  let s ← s.noteKey
  let r ← plainFrom s.inFlow s.indent s.cursor.column .none [] s.cursor.rest
  some ({ s with keyAllowed := r.afterBreak }.emitScalar true r)

def startsPlain (inFlow : Bool) (c : Char) (rest : List Char) : Bool :=
  if c = '-' then !(rest.head?.map isBlank).getD false
  else if c = '?' || c = ':' then !inFlow && !atGap rest
  else !"#,[]\x7b\x7d&*!|>'\"%@`\t".toList.contains c

def scanToken (s : Scan) (c : Char) (rest : List Char) : Option Scan :=
  if s.cursor.column = 0 && c = '%' then s.scanDirective rest
  else if s.cursor.column = 0 && atDocumentMark (c :: rest) then
    s.scanDocumentMark (if c = '-' then .documentStart else .documentEnd)
  else if c = '[' then s.scanFlowOpen .openFlowSequence
  else if c = '\x7b' then s.scanFlowOpen .openFlowMapping
  else if c = ']' then s.scanFlowClose .closeFlowSequence
  else if c = '\x7d' then s.scanFlowClose .closeFlowMapping
  else if c = ',' then s.scanFlowEntry
  else if c = '-' && atGap rest then s.scanBlockEntry
  else if c = '?' && (s.inFlow || atGap rest) then s.scanKey
  else if c = ':' && (s.inFlow || atGap rest) then s.scanValue
  else if c = '*' then s.scanAnchor .alias rest
  else if c = '&' then s.scanAnchor .anchor rest
  else if c = '!' then s.scanTag rest
  else if c = '|' && !s.inFlow then s.scanBlockScalar false rest
  else if c = '>' && !s.inFlow then s.scanBlockScalar true rest
  else if c = '\'' then s.scanQuoted (singleQuoted false .none [] rest)
  else if c = '"' then s.scanQuoted (doubleQuoted false .none [] rest)
  else if startsPlain s.inFlow c rest then s.scanPlain
  else none

/-- Takes all tokens. Each takes a character, so `fuel` characters are enough for the text. -/
def scanAll (s : Scan) : Nat → Option (List Token)
  | 0 => none
  | fuel + 1 => do
    let (keyAllowed, rest) := skipGap s.inFlow s.keyAllowed false s.cursor.rest
    let s ← ({ s with keyAllowed := keyAllowed }.skipTo rest).dropOldKeys
    match rest with
    | [] => do
      let s ← (s.closeBlocks (-1)).dropKey
      some s.tokens.reverse
    | c :: rest => do
      let s ← (s.closeBlocks s.cursor.column).scanToken c rest
      s.scanAll fuel

end Scan

def Token.ofText? (text : String) : Option (List Token) :=
  let chars := text.toList
  if chars.all isAllowed then (Scan.start (unifyLines chars)).scanAll (chars.length + 2) else none

end Alerting.Yaml
