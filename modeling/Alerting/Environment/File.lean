import Alerting.Environment
import Alerting.Text.Alphanumeric
import Alerting.Text.Blank
import Alerting.Text.Split

/-!
# Environment files

An environment file supplies variables that the environment lacks, one statement
`NAME=value` after another. A quoted value may go on over several lines. The first
statement that cannot be read ends the reading, and what came before it stays.
-/
namespace Alerting.Environment

/-! ## Values -/

mutual

/-- The value in the rest of a statement, inside double quotes or outside of any. -/
def value (env : Environment) (quoted : Bool) : List Char → Option (List Char)
  | [] => if quoted then none else some []
  | '$' :: rest => reference env quoted [] rest
  | '\\' :: rest => escape env quoted rest
  | '"' :: rest => value env (!quoted) rest
  | c :: rest =>
    if quoted then (value env quoted rest).map (c :: ·)
    else if c = '\'' then literal env rest
    else if c = ' ' || c = '\t' then ending rest
    else (value env quoted rest).map (c :: ·)

/-- Goes on after a backslash. -/
def escape (env : Environment) (quoted : Bool) : List Char → Option (List Char)
  | [] => if quoted then none else some []
  | c :: rest =>
    if c = 'n' then (value env quoted rest).map ('\n' :: ·)
    else if c ∈ ['\\', '\'', '"', '$', ' '] then (value env quoted rest).map (c :: ·)
    else none

/-- Goes on inside single quotes, where every character stands for itself. -/
def literal (env : Environment) : List Char → Option (List Char)
  | [] => none
  | '\'' :: rest => value env false rest
  | c :: rest => (literal env rest).map (c :: ·)

/-- Goes on after a dollar sign and the last characters of a name, the last of them first. The
character that ends a name without braces stands for itself, unless it is a dollar sign. -/
def reference (env : Environment) (quoted : Bool) (name : List Char) :
    List Char → Option (List Char)
  | [] => if quoted then none else some (env.textOf (String.ofList name.reverse)).toList
  | c :: rest =>
    if Text.isAlphanumeric c then reference env quoted (c :: name) rest
    else if c = '\x7b' && name.isEmpty then braced env quoted [] rest
    else
      let rest :=
        if c = '$' then reference env quoted [] rest else (value env quoted rest).map (c :: ·)
      rest.map ((env.textOf (String.ofList name.reverse)).toList ++ ·)

/-- Goes on inside the braces around a name. -/
def braced (env : Environment) (quoted : Bool) (name : List Char) :
    List Char → Option (List Char)
  | [] => none
  | '\x7d' :: rest =>
    (value env quoted rest).map ((env.textOf (String.ofList name.reverse)).toList ++ ·)
  | c :: rest => braced env quoted (c :: name) rest

/-- Goes on after a value, where blanks and a comment may stand. -/
def ending : List Char → Option (List Char)
  | [] => some []
  | c :: rest =>
    if c = ' ' || c = '\t' then ending rest
    else if c = '#' then some []
    else none

end

/-! ## Statements -/

def readName : List Char → Option (List Char × List Char)
  | [] => none
  | c :: rest =>
    let isInner := fun c : Char => c.isAlphanum || c = '_' || c = '.'
    if c.isAlpha || c = '_' then some (c :: rest.takeWhile isInner, rest.dropWhile isInner)
    else none

/-- What follows an equals sign, which blanks may surround. -/
def afterEquals (text : List Char) : Option (List Char) :=
  match Text.dropBlanks text with
  | '=' :: rest => some (Text.dropBlanks rest)
  | _ => none

/-- The name that a statement binds and the text of its value. The word `export` may come first,
and is a name itself when an equals sign follows it. -/
def readBinding (text : List Char) : Option (List Char × List Char) := do
  let (name, rest) ← readName text
  match afterEquals rest with
  | some value => pure (name, value)
  | none =>
    guard (name = "export".toList)
    let (name, rest) ← readName (Text.dropBlanks rest)
    pure (name, ← afterEquals rest)

def trimEnd (text : List Char) : List Char := (Text.dropBlanks text.reverse).reverse

def startsComment : List Char → Bool
  | '#' :: _ => true
  | _ => false

/-- The environment after a statement, if the statement can be read. -/
def execute (env : Environment) (statement : List Char) : Option Environment :=
  let text := Text.dropBlanks (trimEnd statement)
  if text.isEmpty || startsComment text then some env
  else do
    let (name, rest) ← readBinding text
    let content ← if startsComment rest then some [] else value env false rest
    pure (env.supply (String.ofList name) (String.ofList content))

/-! ## Lines -/

inductive Place where
  | plain
  /-- After a blank. -/
  | gap
  | escaped
  | quoted (mark : Char)
  | quotedEscaped (mark : Char)
  /-- At the sign of a comment, which ends the line. -/
  | comment
deriving DecidableEq

namespace Place

def afterPlain (c : Char) : Place :=
  if c = '\\' then escaped
  else if c = '"' || c = '\'' then quoted c
  else plain

def next (place : Place) (c : Char) : Place :=
  match place with
  | plain => if Text.isBlank c && c ≠ '\n' && c ≠ '\r' then gap else afterPlain c
  | gap => if c = '#' then comment else afterPlain c
  | escaped => plain
  | quoted mark => if c = '\\' then quotedEscaped mark else if c = mark then plain else quoted mark
  | quotedEscaped mark => quoted mark
  | comment => comment

end Place

/-- The part of a line before its comment, and the place after that. -/
def scanLine (place : Place) : List Char → List Char × Place
  | [] => ([], place)
  | c :: rest =>
    match place.next c with
    | .comment => ([], .comment)
    | next =>
      let (kept, last) := scanLine next rest
      (c :: kept, last)

/-- The lines of a text with their ends. -/
def withEnds : List (List Char) → List (List Char)
  | [] => []
  | [line] => if line.isEmpty then [] else [line]
  | line :: lines => (line ++ ['\n']) :: withEnds lines

/-- The environment after lines. The statement in `pending` goes on, and `place` is where it is. A
statement that does not end is not executed. -/
def loadLines (env : Environment) (pending : List Char) (place : Place) :
    List (List Char) → Environment
  | [] => env
  | line :: lines =>
    if startsComment (Text.dropBlanks (pending ++ line)) then loadLines env [] .plain lines
    else
      let (kept, last) := scanLine place line
      match last with
      | .plain | .comment =>
        match execute env (pending ++ kept) with
        | some env => loadLines env [] .plain lines
        | none => env
      | last => loadLines env (pending ++ line) last lines

/-- The environment with the variables of a file that it lacks. A byte order mark may come
first. -/
def load (env : Environment) (file : String) : Environment :=
  let text :=
    match file.toList with
    | '\uFEFF' :: rest => rest
    | text => text
  loadLines env [] .plain (withEnds (Text.split '\n' text))

end Alerting.Environment
