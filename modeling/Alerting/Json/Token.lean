import Alerting.Json.Fault
import Alerting.Text.Hexadecimal

/-!
# Tokens of a document

The text of a document is cut into marks, words, numbers and texts. A text or a
number whose form is wrong is still a token, with the fault that stops a reader
of its value and the fault that stops a reader who only skips it.
-/
namespace Alerting.Json

structure Scanned (α : Type) where
  value : Except Fault α
  skip : Except Fault Unit

inductive Token where
  | openList
  | closeList
  | openObject
  | closeObject
  | comma
  | colon
  | null
  | bool (b : Bool)
  | number (n : Scanned Numeral)
  | text (s : Scanned String)
  /-- Characters that begin no token; nothing after them is looked at. -/
  | stray (fault : Fault)

def isSpace (c : Char) : Bool := c = ' ' || c = '\n' || c = '\t' || c = '\r'

namespace Token

/-! ## Texts -/

/-- A piece of a written text: a character or a 16-bit unit given by its code. -/
inductive Piece where
  | char (c : Char)
  | unit (n : Nat)
deriving DecidableEq

/-- How the pieces of a text end. -/
inductive Stop where
  | closed
  | cutOff
  | control
  | badLetter
  | badCode
deriving DecidableEq

def escaped? : Char → Option Char
  | '"' => some '"'
  | '\\' => some '\\'
  | '/' => some '/'
  | 'b' => some '\x08'
  | 'f' => some '\x0c'
  | 'n' => some '\n'
  | 'r' => some '\r'
  | 't' => some '\t'
  | _ => none

def byteCount (text : List Char) : Nat := text.foldl (fun n c => n + c.utf8Size) 0

/-- The pieces of a text after its opening quote, how they end, and what follows. -/
def pieces : List Char → List Piece × Stop × List Char
  | [] => ([], .cutOff, [])
  | '"' :: rest => ([], .closed, rest)
  | '\\' :: 'u' :: a :: b :: c :: d :: rest =>
    match Text.hexValue? [a, b, c, d] with
    | some n =>
      let (ps, stop, after) := pieces rest
      (.unit n :: ps, stop, after)
    | none => ([], .badCode, [])
  | '\\' :: 'u' :: rest => ([], if byteCount rest < 4 then .cutOff else .badCode, [])
  | '\\' :: e :: rest =>
    match escaped? e with
    | some c =>
      let (ps, stop, after) := pieces rest
      (.char c :: ps, stop, after)
    | none => ([], .badLetter, [])
  | ['\\'] => ([], .cutOff, [])
  | c :: rest =>
    if c.toNat < 0x20 then ([], .control, [])
    else
      let (ps, stop, after) := pieces rest
      (.char c :: ps, stop, after)

def Stop.fault? : Stop → Option Fault
  | .closed => none
  | .cutOff => some .textCutOff
  | .control => some .controlCharacter
  | .badLetter | .badCode => some .badEscape

/-- The fault of a high surrogate with no unit after it. -/
def Stop.surrogateFault : Stop → Fault
  | .cutOff => .textCutOff
  | .badCode => .badEscape
  | .closed | .control | .badLetter => .unfinishedSurrogate

def isHighSurrogate (n : Nat) : Bool := 0xD800 ≤ n && n < 0xDC00

def isLowSurrogate (n : Nat) : Bool := 0xDC00 ≤ n && n < 0xE000

/-- The characters of a text. A high surrogate needs a low one after it. -/
def assemble (stop : Stop) : List Piece → Except Fault (List Char)
  | [] =>
    match stop.fault? with
    | none => .ok []
    | some f => .error f
  | .char c :: rest => (assemble stop rest).map (c :: ·)
  | .unit n :: rest =>
    if isLowSurrogate n then .error .unpairedSurrogate
    else if isHighSurrogate n then
      match rest with
      | [] => .error stop.surrogateFault
      | .char _ :: _ => .error .unfinishedSurrogate
      | .unit m :: more =>
        if isLowSurrogate m then
          (assemble stop more).map
            (Char.ofNat (0x10000 + 0x400 * (n - 0xD800) + (m - 0xDC00)) :: ·)
        else .error .unpairedSurrogate
    else (assemble stop rest).map (Char.ofNat n :: ·)

/-- The text token after an opening quote, and the rest. -/
def scanText (text : List Char) : Scanned String × List Char :=
  let (ps, stop, rest) := pieces text
  let skip : Except Fault Unit :=
    match stop.fault? with
    | none => .ok ()
    | some f => .error f
  (⟨(assemble stop ps).map String.ofList, skip⟩, rest)

/-! ## Numbers -/

/-- A number of the wrong form. Where the text ends too early a reader of its value says so. -/
def badNumber (rest : List Char) : Scanned Numeral × List Char :=
  (⟨.error (if rest.isEmpty then .valueCutOff else .badNumber), .error .badNumber⟩, [])

/-- The number token with these digits before and after its point, and this exponent. -/
def real (negative : Bool) (whole fraction : List Char) (exponent : Int)
    (rest : List Char) : Scanned Numeral × List Char :=
  let value := Numeral.ofDecimal negative
    ⟨Decimal.valueOf (whole ++ fraction), exponent - fraction.length⟩
  (⟨value.elim (.error .numberOutOfRange) .ok, .ok ()⟩, rest)

/-- The number token from its exponent on, which `text` has after its `e`. -/
def scanExponent (negative : Bool) (whole fraction text : List Char) :
    Scanned Numeral × List Char :=
  let power := Decimal.splitSign text
  let digits := power.2.takeWhile Char.isDigit
  if digits.isEmpty then badNumber power.2
  else
    let n : Int := Decimal.valueOf digits
    real negative whole fraction (if power.1 then -n else n) (power.2.dropWhile Char.isDigit)

def scanAfterFraction (negative : Bool) (whole fraction : List Char) :
    List Char → Scanned Numeral × List Char
  | 'e' :: rest | 'E' :: rest => scanExponent negative whole fraction rest
  | rest => real negative whole fraction 0 rest

def scanAfterWhole (negative : Bool) (whole : List Char) :
    List Char → Scanned Numeral × List Char
  | '.' :: rest =>
    let fraction := rest.takeWhile Char.isDigit
    if fraction.isEmpty then badNumber rest
    else scanAfterFraction negative whole fraction (rest.dropWhile Char.isDigit)
  | 'e' :: rest | 'E' :: rest => scanExponent negative whole [] rest
  | rest =>
    match Numeral.ofUnits negative (Decimal.valueOf whole) with
    | some n => (⟨.ok n, .ok ()⟩, rest)
    | none => real negative whole [] 0 rest

/-- The number token after its sign. A zero in front stands alone. -/
def scanNumber (negative : Bool) (text : List Char) : Scanned Numeral × List Char :=
  match text.takeWhile Char.isDigit with
  | [] => badNumber text
  | '0' :: _ :: _ => (⟨.error .badNumber, .error .badNumber⟩, [])
  | whole => scanAfterWhole negative whole (text.dropWhile Char.isDigit)

/-! ## Words -/

/-- The token of a word whose first letter has been read. -/
def scanWord (token : Token) : List Char → List Char → Token × List Char
  | [], rest => (token, rest)
  | _ :: _, [] => (.stray .valueCutOff, [])
  | w :: word, c :: rest => if c = w then scanWord token word rest else (.stray .wordExpected, [])

/-- The first token of a text that starts with `c`, and the rest. -/
def scanOne (c : Char) (rest : List Char) : Token × List Char :=
  match c with
  | '[' => (.openList, rest)
  | ']' => (.closeList, rest)
  | '\x7b' => (.openObject, rest)
  | '\x7d' => (.closeObject, rest)
  | ',' => (.comma, rest)
  | ':' => (.colon, rest)
  | 'n' => scanWord .null ['u', 'l', 'l'] rest
  | 't' => scanWord (.bool true) ['r', 'u', 'e'] rest
  | 'f' => scanWord (.bool false) ['a', 'l', 's', 'e'] rest
  | '"' =>
    let (s, after) := scanText rest
    (.text s, after)
  | '-' =>
    let (n, after) := scanNumber true rest
    (.number n, after)
  | _ =>
    if c.isDigit then
      let (n, after) := scanNumber false (c :: rest)
      (.number n, after)
    else (.stray .valueExpected, [])

/-! Every token takes at least one character. -/

theorem length_pieces (text : List Char) : (pieces text).2.2.length ≤ text.length := by
  fun_induction pieces text <;> simp_all <;> omega

theorem length_dropWhile_le {α : Type} (p : α → Bool) (l : List α) :
    (l.dropWhile p).length ≤ l.length := (List.dropWhile_suffix p).length_le

theorem length_scanExponent (negative : Bool) (whole fraction text : List Char) :
    (scanExponent negative whole fraction text).2.length ≤ text.length := by
  unfold scanExponent
  simp only
  split
  · exact Nat.zero_le _
  · exact Nat.le_trans (length_dropWhile_le _ _) (Decimal.length_splitSign text)

theorem length_scanAfterFraction (negative : Bool) (whole fraction text : List Char) :
    (scanAfterFraction negative whole fraction text).2.length ≤ text.length := by
  unfold scanAfterFraction
  split
  · exact Nat.le_trans (length_scanExponent ..) (by simp)
  · exact Nat.le_trans (length_scanExponent ..) (by simp)
  · simp [real]

theorem length_scanAfterWhole (negative : Bool) (whole text : List Char) :
    (scanAfterWhole negative whole text).2.length ≤ text.length := by
  unfold scanAfterWhole
  split
  · simp only
    split
    · simp [badNumber]
    · exact Nat.le_trans (length_scanAfterFraction ..)
        (Nat.le_trans (length_dropWhile_le _ _) (by simp))
  · exact Nat.le_trans (length_scanExponent ..) (by simp)
  · exact Nat.le_trans (length_scanExponent ..) (by simp)
  · split <;> simp [real]

theorem length_scanWord (token : Token) (word rest : List Char) :
    (scanWord token word rest).2.length ≤ rest.length := by
  fun_induction scanWord token word rest <;> simp_all
  omega

theorem length_scanNumber (negative : Bool) (text : List Char) :
    (scanNumber negative text).2.length ≤ (text.dropWhile Char.isDigit).length := by
  unfold scanNumber
  split
  · simp [badNumber]
  · simp
  · exact length_scanAfterWhole ..

theorem length_scanOne (c : Char) (rest : List Char) :
    (scanOne c rest).2.length ≤ rest.length := by
  unfold scanOne
  split
  case h_10 => exact length_pieces rest
  case h_11 => exact Nat.le_trans (length_scanNumber ..) (length_dropWhile_le _ _)
  case h_12 =>
    split
    · rename_i hd
      refine Nat.le_trans (length_scanNumber ..) ?_
      simpa [hd] using length_dropWhile_le Char.isDigit rest
    · simp
  all_goals first | exact length_scanWord .. | exact Nat.le_refl _

def scan : List Char → List Token
  | [] => []
  | c :: rest =>
    if isSpace c then scan rest
    else (scanOne c rest).1 :: scan (scanOne c rest).2
termination_by text => text.length
decreasing_by
  · simp
  · exact Nat.lt_succ_of_le (length_scanOne c rest)

end Token
end Alerting.Json
