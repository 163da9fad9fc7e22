import Alerting.Dictionary
import Alerting.Json.Numeral

/-!
# Document values and how they are written

A value holds the members of an object in the order in which they are written.
The compact form has no blanks; the pretty form puts every item on a line of its
own, indented by two blanks a level.
-/
namespace Alerting

inductive Json where
  | null
  | bool (b : Bool)
  | number (n : Json.Numeral)
  | text (s : String)
  | list (items : List Json)
  | object (members : List (String × Json))

namespace Json

instance : Inhabited Json := ⟨.null⟩

/-- A double as a value; those that are not finite have no written form and are null. -/
def ofFloat (x : Float) : Json := if x.isFinite then .number (.real x) else .null

def ofOption {α : Type} (encode : α → Json) : Option α → Json
  | some a => encode a
  | none => .null

/-- A member that is left out when its value is absent. -/
def member? {α : Type} (name : String) (encode : α → Json) : Option α → List (String × Json)
  | some a => [(name, encode a)]
  | none => []

/-! ## Writing -/

def hexDigits (n : Nat) : List Char :=
  let digits := Nat.toDigits 16 n
  List.replicate (4 - digits.length) '0' ++ digits

def escapedChar (c : Char) : List Char :=
  match c with
  | '"' => ['\\', '"']
  | '\\' => ['\\', '\\']
  | '\x08' => ['\\', 'b']
  | '\x0c' => ['\\', 'f']
  | '\n' => ['\\', 'n']
  | '\r' => ['\\', 'r']
  | '\t' => ['\\', 't']
  | _ => if c.toNat < 0x20 then '\\' :: 'u' :: hexDigits c.toNat else [c]

def textChars (s : String) : List Char := '"' :: (s.toList.flatMap escapedChar ++ ['"'])

def wordChars (b : Bool) : List Char :=
  if b then ['t', 'r', 'u', 'e'] else ['f', 'a', 'l', 's', 'e']

mutual

def chars : Json → List Char
  | .null => ['n', 'u', 'l', 'l']
  | .bool b => wordChars b
  | .number n => n.chars
  | .text s => textChars s
  | .list items => '[' :: itemChars items
  | .object members => '\x7b' :: memberChars members

/-- Items up to the end of their list. -/
def itemChars : List Json → List Char
  | [] => [']']
  | [v] => v.chars ++ [']']
  | v :: w :: rest => v.chars ++ ',' :: itemChars (w :: rest)

/-- Members up to the end of their object. -/
def memberChars : List (String × Json) → List Char
  | [] => ['\x7d']
  | [(k, v)] => textChars k ++ ':' :: (v.chars ++ ['\x7d'])
  | (k, v) :: m :: rest => textChars k ++ ':' :: (v.chars ++ ',' :: memberChars (m :: rest))

end

def lineAt (level : Nat) : List Char := '\n' :: List.replicate (2 * level) ' '

mutual

def prettyChars (level : Nat) : Json → List Char
  | .null => ['n', 'u', 'l', 'l']
  | .bool b => wordChars b
  | .number n => n.chars
  | .text s => textChars s
  | .list [] => ['[', ']']
  | .list (v :: rest) => '[' :: prettyItems level (v :: rest)
  | .object [] => ['\x7b', '\x7d']
  | .object (m :: rest) => '\x7b' :: prettyMembers level (m :: rest)

/-- Items on lines of their own, up to the end of their list. -/
def prettyItems (level : Nat) : List Json → List Char
  | [] => lineAt level ++ [']']
  | [v] => lineAt (level + 1) ++ v.prettyChars (level + 1) ++ lineAt level ++ [']']
  | v :: w :: rest =>
    lineAt (level + 1) ++ v.prettyChars (level + 1) ++ ',' :: prettyItems level (w :: rest)

/-- Members on lines of their own, up to the end of their object. -/
def prettyMembers (level : Nat) : List (String × Json) → List Char
  | [] => lineAt level ++ ['\x7d']
  | [(k, v)] =>
    lineAt (level + 1) ++ textChars k ++ ':' :: ' ' ::
      (v.prettyChars (level + 1) ++ lineAt level ++ ['\x7d'])
  | (k, v) :: m :: rest =>
    lineAt (level + 1) ++ textChars k ++ ':' :: ' ' ::
      (v.prettyChars (level + 1) ++ ',' :: prettyMembers level (m :: rest))

end

def compact (v : Json) : String := String.ofList v.chars

def pretty (v : Json) : String := String.ofList (v.prettyChars 0)

end Json
end Alerting
