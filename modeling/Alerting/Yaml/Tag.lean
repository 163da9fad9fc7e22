import Alerting.Text.Hexadecimal
import Alerting.Yaml.Cursor

/-!
# Tags, anchors and directives

The marks that start with `!`, `&`, `*` and `%`. A tag is a handle, which a
document may give a longer name, and a suffix.
-/
namespace Alerting.Yaml

/-- Whether a character may stand in a tag; inside of angle brackets some more may. -/
def isTagChar (inBrackets : Bool) (c : Char) : Bool :=
  isName c || ";/?:@&=+$.%!~*'()".toList.contains c || (inBrackets && ",[]".toList.contains c)

/-- The bytes of a character that is written by its bytes, as a code so far, and the bytes that
are still missing. -/
def leadByte? (n : Nat) : Option (Nat × Nat) :=
  if n < 0x80 then some (n, 0)
  else if 0xC0 ≤ n && n < 0xE0 then some (n - 0xC0, 1)
  else if 0xE0 ≤ n && n < 0xF0 then some (n - 0xE0, 2)
  else if 0xF0 ≤ n && n < 0xF8 then some (n - 0xF0, 3)
  else none

/-- The characters of a tag, in which `%` and two digits stand for a byte. `code` and `missing`
are the character whose bytes are being read. -/
def tagChars (inBrackets : Bool) (code missing : Nat) (done : List Char) :
    List Char → Option (List Char × List Char)
  | '%' :: a :: b :: rest => do
    let n ← Text.hexValue? [a, b]
    match missing with
    | 0 =>
      match ← leadByte? n with
      | (code, 0) => tagChars inBrackets 0 0 (Char.ofNat code :: done) rest
      | (code, missing) => tagChars inBrackets code missing done rest
    | missing + 1 =>
      if n / 64 ≠ 2 then none
      else
        let code := 64 * code + (n - 0x80)
        if missing = 0 then tagChars inBrackets 0 0 (Char.ofNat code :: done) rest
        else tagChars inBrackets code missing done rest
  | c :: rest =>
    if missing ≠ 0 || c = '%' then none
    else if isTagChar inBrackets c then tagChars inBrackets 0 0 (c :: done) rest
    else some (done.reverse, c :: rest)
  | [] => if missing = 0 then some (done.reverse, []) else none

/-- The suffix of a tag, which has at least one character. -/
def tagSuffix? (inBrackets : Bool) (text : List Char) : Option (List Char × List Char) := do
  let (suffix, rest) ← tagChars inBrackets 0 0 [] text
  if rest.length < text.length then some (suffix, rest) else none

/-- A handle and a suffix, after the `!` that starts a tag, and what follows. An empty handle
means that the suffix is the whole tag. -/
def tag? (text : List Char) : Option (String × String × List Char) :=
  match text with
  | '<' :: rest => do
    let (suffix, rest) ← tagSuffix? true rest
    match rest with
    | '>' :: rest => some ("", String.ofList suffix, rest)
    | _ => none
  | _ =>
    let name := text.takeWhile isName
    match text.dropWhile isName with
    | '!' :: rest => do
      let (suffix, rest) ← tagSuffix? false rest
      some (String.ofList ('!' :: (name ++ ['!'])), String.ofList suffix, rest)
    | rest => do
      let (more, rest) ← tagChars false 0 0 [] rest
      match name ++ more with
      | [] => some ("", "!", rest)
      | suffix => some ("!", String.ofList suffix, rest)

def mayFollowTag (inFlow : Bool) (text : List Char) : Bool :=
  atGap text || (inFlow && text.head? = some ',')

def anchorName? (text : List Char) : Option (String × List Char) :=
  let name := text.takeWhile isName
  let rest := text.dropWhile isName
  let ends := (rest.head?.map "?:,]\x7d%@`".toList.contains).getD false
  if name.isEmpty || !(atGap rest || ends) then none else some (String.ofList name, rest)

inductive Directive where
  | version (major minor : Nat)
  | tag (handle meaning : String)
deriving DecidableEq

def versionPart? (text : List Char) : Option (Nat × List Char) :=
  let digits := text.takeWhile Char.isDigit
  if digits.isEmpty || 9 < digits.length then none
  else some (digits.foldl (fun n c => 10 * n + (c.toNat - '0'.toNat)) 0, text.drop digits.length)

def versionDirective? (text : List Char) : Option (Directive × List Char) := do
  let (major, rest) ← versionPart? text
  match rest with
  | '.' :: rest =>
    let (minor, rest) ← versionPart? rest
    some (.version major minor, rest)
  | _ => none

/-- The handle of a tag directive: `!`, or a name between two of them. -/
def handle? (text : List Char) : Option (String × List Char) :=
  match text with
  | '!' :: rest =>
    let name := rest.takeWhile isName
    match rest.dropWhile isName with
    | '!' :: rest => some (String.ofList ('!' :: (name ++ ['!'])), rest)
    | rest => if name.isEmpty then some ("!", rest) else none
  | _ => none

def tagDirective? (text : List Char) : Option (Directive × List Char) := do
  let (handle, rest) ← handle? text
  if !(rest.head?.map isBlank).getD false then none
  let (meaning, rest) ← tagSuffix? true (rest.dropWhile isBlank)
  if atGap rest then some (.tag handle (String.ofList meaning), rest) else none

/-- A directive after its `%`, and the rest of the text from the end of its line on. -/
def directive? (text : List Char) : Option (Directive × List Char) := do
  let name := String.ofList (text.takeWhile isName)
  let rest := text.dropWhile isName
  if !atGap rest then none
  let value := rest.dropWhile isBlank
  let (d, rest) ←
    if name = "YAML" then versionDirective? value
    else if name = "TAG" then tagDirective? value
    else none
  let rest := rest.dropWhile isBlank
  if rest.head? = some '#' then some (d, rest.dropWhile (!isBreak ·))
  else if atLineEnd rest then some (d, rest)
  else none

end Alerting.Yaml
