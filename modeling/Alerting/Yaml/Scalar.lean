import Alerting.Text.Hexadecimal
import Alerting.Yaml.Folding

/-!
# Scalars

The text of a scalar in its plain, quoted and block forms, and what is left
after it. A scalar that breaks the rules of its form has no text.
-/
namespace Alerting.Yaml

structure ScalarText where
  text : List Char
  rest : List Char
  /-- Whether a line end comes between the text and what follows it. -/
  afterBreak : Bool

/-! ## Plain scalars -/

def isFlowMark (c : Char) : Bool := c = ',' || c = '[' || c = ']' || c = '\x7b' || c = '\x7d'

/-- Whether a colon may not stand before this text inside a plain scalar of a flow collection. -/
def isBadAfterColon : List Char → Bool
  | [] => false
  | c :: _ => isFlowMark c || c = '?'

def endsPlain (inFlow : Bool) : List Char → Bool
  | [] => true
  | c :: rest => (c = ':' && atGap rest) || (inFlow && isFlowMark c)

/-- A plain scalar, from a column on and with `words` read, the last first. Lines of a scalar
outside of flow collections stay right of `indent`. -/
def plainFrom (inFlow : Bool) (indent : Int) (column : Nat) (gap : Gap) (words : List Char) :
    List Char → Option ScalarText
  | [] => some ⟨words.reverse, [], gap.hasBreak⟩
  | c :: rest =>
    if isBlank c then
      if c = '\t' && gap.hasBreak && column ≤ indent then none
      else plainFrom inFlow indent (column + 1) (gap.addBlank c) words rest
    else if isBreak c then plainFrom inFlow indent 0 (gap.addBreak c) words rest
    else if !gap.isNone && (c = '#' || (!inFlow && column ≤ indent)) ||
        (column = 0 && atDocumentMark (c :: rest)) then
      some ⟨words.reverse, c :: rest, gap.hasBreak⟩
    else if inFlow && c = ':' && isBadAfterColon rest then none
    else if endsPlain inFlow (c :: rest) then some ⟨words.reverse, c :: rest, gap.hasBreak⟩
    else plainFrom inFlow indent (column + 1) .none (c :: (gap.folded ++ words)) rest

/-! ## Quoted scalars -/

def singleQuoted (atStart : Bool) (gap : Gap) (words : List Char) :
    List Char → Option ScalarText
  | [] => none
  | c :: rest =>
    if isBlank c then singleQuoted false (gap.addBlank c) words rest
    else if isBreak c then singleQuoted true (gap.addBreak c) words rest
    else if atStart && atDocumentMark (c :: rest) then none
    else if c = '\'' then
      match rest with
      | '\'' :: more => singleQuoted false .none ('\'' :: (gap.folded ++ words)) more
      | _ => some ⟨(gap.folded ++ words).reverse, rest, false⟩
    else singleQuoted false .none (c :: (gap.folded ++ words)) rest

def escaped? : Char → Option Char
  | '0' => some '\x00'
  | 'a' => some '\x07'
  | 'b' => some '\x08'
  | 't' | '\t' => some '\t'
  | 'n' => some '\n'
  | 'v' => some '\x0b'
  | 'f' => some '\x0c'
  | 'r' => some '\r'
  | 'e' => some '\x1b'
  | ' ' => some ' '
  | '"' => some '"'
  | '/' => some '/'
  | '\\' => some '\\'
  | 'N' => some '\u0085'
  | '_' => some '\u00a0'
  | 'L' => some lineSeparator
  | 'P' => some paragraphSeparator
  | _ => none

def coded? (digits : List Char) : Option Char := do
  let n ← Text.hexValue? digits
  if n.isValidChar then some (Char.ofNat n) else none

def doubleQuoted (atStart : Bool) (gap : Gap) (words : List Char) :
    List Char → Option ScalarText
  | [] => none
  | '\\' :: 'x' :: a :: b :: rest => do
    let c ← coded? [a, b]
    doubleQuoted false .none (c :: (gap.folded ++ words)) rest
  | '\\' :: 'u' :: a :: b :: c :: d :: rest => do
    let c ← coded? [a, b, c, d]
    doubleQuoted false .none (c :: (gap.folded ++ words)) rest
  | '\\' :: 'U' :: a :: b :: c :: d :: e :: f :: g :: h :: rest => do
    let c ← coded? [a, b, c, d, e, f, g, h]
    doubleQuoted false .none (c :: (gap.folded ++ words)) rest
  | '\\' :: e :: rest =>
    if isBreak e then doubleQuoted true (.breaks none []) (gap.folded ++ words) rest
    else
      match escaped? e with
      | some c => doubleQuoted false .none (c :: (gap.folded ++ words)) rest
      | none => none
  | c :: rest =>
    if isBlank c then doubleQuoted false (gap.addBlank c) words rest
    else if isBreak c then doubleQuoted true (gap.addBreak c) words rest
    else if atStart && atDocumentMark (c :: rest) then none
    else if c = '"' then some ⟨(gap.folded ++ words).reverse, rest, false⟩
    else if c = '\\' then none
    else doubleQuoted false .none (c :: (gap.folded ++ words)) rest

/-! ## Block scalars -/

structure Line where
  content : List Char
  ending : Option Char

/-- The lines of a text; what follows the last line end is a line without ending. -/
def splitLines : List Char → List Line
  | [] => [⟨[], none⟩]
  | c :: rest =>
    if isBreak c then ⟨[], some c⟩ :: splitLines rest
    else
      match splitLines rest with
      | [] => [⟨[c], none⟩]
      | line :: lines => { line with content := c :: line.content } :: lines

def joinLines (lines : List Line) : List Char :=
  lines.flatMap fun line => line.content ++ line.ending.toList

inductive Chomping where
  | strip
  | clip
  | keep
deriving DecidableEq

/-- The form of a block scalar: whether its lines are folded, the fate of the line ends behind
it, and the columns it is indented, if that is given. -/
structure BlockForm where
  folds : Bool
  chomping : Chomping
  increment : Option Nat

def chomping? : List Char → Option (Chomping × List Char)
  | '+' :: rest => some (.keep, rest)
  | '-' :: rest => some (.strip, rest)
  | _ => none

/-- A digit of indentation, which is not zero. -/
def increment? : List Char → Option (Nat × List Char)
  | c :: rest => if c.isDigit && c ≠ '0' then some (c.toNat - '0'.toNat, rest) else none
  | [] => none

/-- The rest of the line that starts a block scalar holds nothing but a comment. -/
def isHeaderEnd (text : List Char) : Bool :=
  let rest := text.dropWhile isBlank
  rest.head? = some '#' || atLineEnd rest

/-- The form that the marks after `|` or `>` give, and what follows them. -/
def blockForm? (folds : Bool) (text : List Char) : Option (BlockForm × List Char) :=
  let (form, rest) : BlockForm × List Char :=
    match chomping? text with
    | some (chomping, rest) =>
      match increment? rest with
      | some (n, rest) => (⟨folds, chomping, some n⟩, rest)
      | none => (⟨folds, chomping, none⟩, rest)
    | none =>
      match increment? text with
      | some (n, rest) =>
        match chomping? rest with
        | some (chomping, rest) => (⟨folds, chomping, some n⟩, rest)
        | none => (⟨folds, .clip, some n⟩, rest)
      | none => (⟨folds, .clip, none⟩, text)
  if isHeaderEnd rest then some (form, rest) else none

def leadingSpaces (content : List Char) : Nat := (content.takeWhile (· = ' ')).length

/-- The empty lines at the start of a block scalar and the columns of the widest line of them and
of the one after them. A tab may not stand where a space is expected. -/
def openingLines (widest : Nat) (breaks : List Char) :
    List Line → Option (Nat × List Char × List Line)
  | [] => some (widest, breaks, [])
  | line :: lines =>
    let n := leadingSpaces line.content
    let left := line.content.drop n
    if left.head? = some '\t' then none
    else
      match left, line.ending with
      | [], some c => openingLines (max widest n) (c :: breaks) lines
      | _, _ => some (max widest n, breaks, line :: lines)

/-- A block scalar as far as it has been read, the last first. -/
structure BlockState where
  text : List Char
  /-- The end of the last line that is not empty. -/
  lineEnd : Option Char
  /-- The ends of the empty lines after it. -/
  emptyEnds : List Char
  /-- Whether the last line that is not empty starts with a blank. -/
  startsBlank : Bool

namespace BlockState

/-- Takes the text of a line. A line end between two lines that do not start with a blank is
folded. -/
def addLine (s : BlockState) (folds : Bool) (content : List Char) (ending : Option Char) :
    BlockState :=
  let blank := (content.head?.map isBlank).getD false
  let joined :=
    if folds && s.lineEnd = some '\n' && !s.startsBlank && !blank then
      if s.emptyEnds.isEmpty then ' ' :: s.text else s.text
    else s.lineEnd.toList ++ s.text
  ⟨content.reverse ++ (s.emptyEnds ++ joined), ending, [], blank⟩

def finish (s : BlockState) (chomping : Chomping) : List Char :=
  let text :=
    match chomping with
    | .strip => s.text
    | .clip => s.lineEnd.toList ++ s.text
    | .keep => s.emptyEnds ++ (s.lineEnd.toList ++ s.text)
  text.reverse

end BlockState

/-- The lines of a block scalar with `indent` columns of indentation, up to a line with fewer. -/
def blockLines (form : BlockForm) (indent : Nat) (s : BlockState) :
    List Line → Option ScalarText
  | [] => some ⟨s.finish form.chomping, [], true⟩
  | line :: lines =>
    let n := min indent (leadingSpaces line.content)
    let left := line.content.drop n
    if n < indent && left.head? = some '\t' then none
    else
      match left, line.ending with
      | [], some c => blockLines form indent { s with emptyEnds := c :: s.emptyEnds } lines
      | [], none => some ⟨s.finish form.chomping, [], true⟩
      | left, ending =>
        if n = indent then blockLines form indent (s.addLine form.folds left ending) lines
        else some ⟨s.finish form.chomping, joinLines (⟨left, ending⟩ :: lines), true⟩

/-- A block scalar after its `|` or `>`, inside a block that is indented `parent` columns. -/
def block (folds : Bool) (parent : Int) (text : List Char) : Option ScalarText := do
  let (form, rest) ← blockForm? folds text
  let lines := (splitLines rest).drop 1
  let start : BlockState := ⟨[], none, [], false⟩
  match form.increment with
  | some n => blockLines form (max parent 0 + n).toNat start lines
  | none =>
    let (widest, breaks, lines) ← openingLines 0 [] lines
    let indent := max (max (widest : Int) (parent + 1)) 1
    blockLines form indent.toNat { start with emptyEnds := breaks } lines

end Alerting.Yaml
