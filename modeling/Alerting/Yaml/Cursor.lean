/-!
# Places in a YAML text

A cursor is what is left of a text and where that starts. Line ends are one
character each: all but the separators of Unicode are turned into line feeds
first.
-/
namespace Alerting.Yaml

def lineSeparator : Char := '\u2028'
def paragraphSeparator : Char := '\u2029'

def isAllowed (c : Char) : Bool :=
  let n := c.toNat
  n = 0x09 || n = 0x0A || n = 0x0D || (0x20 ≤ n && n ≤ 0x7E) || n = 0x85 ||
    (0xA0 ≤ n && n ≤ 0xD7FF) || (0xE000 ≤ n && n ≤ 0xFFFD) || 0x10000 ≤ n

/-- A text with a line feed for each line end of two characters, each return and each next line. -/
def unifyLines : List Char → List Char
  | [] => []
  | '\r' :: '\n' :: rest => '\n' :: unifyLines rest
  | c :: rest => (if c = '\r' || c = '\u0085' then '\n' else c) :: unifyLines rest

def isBreak (c : Char) : Bool := c = '\n' || c = lineSeparator || c = paragraphSeparator

def isBlank (c : Char) : Bool := c = ' ' || c = '\t'

/-- A character of names: of anchors, handles and directives. -/
def isName (c : Char) : Bool := c.isAlphanum || c = '_' || c = '-'

/-- Whether a text is over, at a line end or at a blank. -/
def atGap : List Char → Bool
  | [] => true
  | c :: _ => isBlank c || isBreak c

/-- Whether a text is over or at a line end. -/
def atLineEnd : List Char → Bool
  | [] => true
  | c :: _ => isBreak c

/-- Whether a text starts with the mark of a document's start or end. -/
def atDocumentMark : List Char → Bool
  | '-' :: '-' :: '-' :: rest | '.' :: '.' :: '.' :: rest => atGap rest
  | _ => false

/-- What is left of a text, and where it starts. -/
structure Cursor where
  rest : List Char
  index : Nat
  line : Nat
  column : Nat

namespace Cursor

def start (text : List Char) : Cursor := ⟨text, 0, 0, 0⟩

def next (c : Cursor) : Cursor :=
  match c.rest with
  | [] => c
  | ch :: rest =>
    if isBreak ch then ⟨rest, c.index + 1, c.line + 1, 0⟩
    else ⟨rest, c.index + 1, c.line, c.column + 1⟩

def skip (c : Cursor) : Nat → Cursor
  | 0 => c
  | n + 1 => c.next.skip n

/-- The place where only `rest` is left, which is an end of the text. -/
def skipTo (c : Cursor) (rest : List Char) : Cursor := c.skip (c.rest.length - rest.length)

end Cursor
end Alerting.Yaml
