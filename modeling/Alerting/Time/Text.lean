import Alerting.Decimal.Basic
import Alerting.Text.Blank
import Alerting.Time.Instant

/-!
# Instants as text

An instant is written in the RFC 3339 form in universal time, with as many
groups of three fraction digits as it needs. Reading is wider: parts may have
fewer digits and blanks before them, and any offset is taken into account.
-/
namespace Alerting.Time

inductive TextFault where
  | tooShort
  | unexpected
  | outOfRange
  | trailing
  | unrepresentable
deriving DecidableEq, Repr

def TextFault.message : TextFault → String
  | .tooShort => "premature end of input"
  | .unexpected => "input contains invalid characters"
  | .outOfRange => "input is out of range"
  | .trailing => "trailing input"
  | .unrepresentable => "no possible date and time matching input"

/-- The digits of `n`, with zeros in front up to `width` places. -/
def padded (width n : Nat) : List Char :=
  let digits := Nat.toDigits 10 n
  List.replicate (width - digits.length) '0' ++ digits

/-- A year, with its sign outside of the years that have four digits. -/
def yearText (year : Int) : List Char :=
  if 0 ≤ year && year ≤ 9999 then padded 4 year.toNat
  else (if year < 0 then '-' else '+') :: padded 4 year.natAbs

/-- A fraction of a second in groups of three digits. -/
def fractionText (nanos : Nat) : List Char :=
  if nanos = 0 then []
  else if nanos % 1000000 = 0 then '.' :: padded 3 (nanos / 1000000)
  else if nanos % 1000 = 0 then '.' :: padded 6 (nanos / 1000)
  else '.' :: padded 9 nanos

namespace Instant

def chars (t : Instant) : List Char :=
  let leap := t.nanos / 1000000000
  yearText t.day.year ++ '-' :: padded 2 t.day.month ++ '-' :: padded 2 t.day.day ++
    'T' :: padded 2 (t.second / 3600) ++ ':' :: padded 2 (t.second / 60 % 60) ++
    ':' :: padded 2 (t.second % 60 + leap) ++ fractionText (t.nanos % 1000000000) ++ ['Z']

def text (t : Instant) : String := String.ofList t.chars

end Instant

/-- Between one and `most` digits at the front of a text, and the rest. -/
def readDigits (most : Nat) (text : List Char) : Except TextFault ((List Char) × List Char) :=
  match (text.take most).takeWhile Char.isDigit with
  | [] => .error (if text.isEmpty then .tooShort else .unexpected)
  | digits => .ok (digits, text.drop digits.length)

/-- A number of at most `most` digits between `low` and `high`. -/
def readPart (most low high : Nat) (text : List Char) : Except TextFault (Nat × List Char) := do
  let (digits, rest) ← readDigits most text
  let n := Decimal.valueOf digits
  if low ≤ n && n ≤ high then pure (n, rest) else .error .outOfRange

/-- A year of at most four digits, or of any number of digits after a sign. A year that no
calendar counts is refused at once. -/
def readYear (text : List Char) : Except TextFault (Int × List Char) :=
  match text with
  | '-' :: rest => do
    let (year, rest) ← readPart rest.length 0 0x80000000 rest
    pure (-(year : Int), rest)
  | '+' :: rest => do
    let (year, rest) ← readPart rest.length 0 0x7FFFFFFF rest
    pure ((year : Int), rest)
  | rest => do
    let (year, rest) ← readPart 4 0 9999 rest
    pure ((year : Int), rest)

def readMark (mark : Char) : List Char → Except TextFault (Unit × List Char)
  | [] => .error .tooShort
  | c :: rest => if c = mark then .ok ((), rest) else .error .unexpected

/-- A fraction after a point, in nanoseconds. Digits after the ninth are dropped. -/
def readFraction : List Char → Except TextFault (Nat × List Char)
  | '.' :: rest => do
    let (digits, rest) ← readDigits 9 rest
    pure (Decimal.valueOf digits * Nat.pow 10 (9 - digits.length), rest.dropWhile Char.isDigit)
  | rest => .ok (0, rest)

def readPair (text : List Char) : Except TextFault ((Nat × Nat) × List Char) :=
  match text with
  | [] => .error .tooShort
  | [c] => .error (if c.toNat < 0x80 then .tooShort else .unexpected)
  | a :: b :: rest =>
    if a.isDigit && b.isDigit then .ok ((Decimal.valueOf [a], Decimal.valueOf [b]), rest)
    else .error .unexpected

def readOffsetParts (text : List Char) : Except TextFault (Nat × List Char) := do
  let ((h₁, h₂), rest) ← readPair text
  let rest := rest.dropWhile fun c => c = ':' || Text.isBlank c
  let ((m₁, m₂), rest) ← readPair rest
  if m₁ ≤ 5 then pure (60 * (10 * h₁ + h₂) + (10 * m₁ + m₂), rest) else .error .outOfRange

def readOffset (text : List Char) : Except TextFault (Int × List Char) :=
  match text with
  | 'z' :: rest | 'Z' :: rest => .ok (0, rest)
  | '+' :: rest => do
    let (minutes, rest) ← readOffsetParts rest
    pure ((minutes : Int), rest)
  | '-' :: rest | '\u2212' :: rest => do
    let (minutes, rest) ← readOffsetParts rest
    pure (-(minutes : Int), rest)
  | u :: t :: c :: rest =>
    if String.ofList [u.toUpper, t.toUpper, c.toUpper] = "UTC" then .ok (0, rest)
    else .error .unexpected
  | [] => .error .tooShort
  | _ => .error .unexpected

/-- The letter or blank between day and time. -/
def readSeparator : List Char → Except TextFault (Unit × List Char)
  | [] => .error .tooShort
  | c :: rest => if c = 't' || c = 'T' || c = ' ' then .ok ((), rest) else .error .unexpected

def readInstant (text : String) : Except TextFault Instant := do
  let (year, rest) ← readYear (Text.dropBlanks text.toList)
  let (_, rest) ← readMark '-' (Text.dropBlanks rest)
  let (month, rest) ← readPart 2 1 12 (Text.dropBlanks rest)
  let (_, rest) ← readMark '-' (Text.dropBlanks rest)
  let (day, rest) ← readPart 2 1 31 (Text.dropBlanks rest)
  let (_, rest) ← readSeparator rest
  let (hour, rest) ← readPart 2 0 23 (Text.dropBlanks rest)
  let (_, rest) ← readMark ':' (Text.dropBlanks rest)
  let (minute, rest) ← readPart 2 0 59 (Text.dropBlanks rest)
  let (_, rest) ← readMark ':' (Text.dropBlanks rest)
  let (second, rest) ← readPart 2 0 60 (Text.dropBlanks rest)
  let (nanos, rest) ← readFraction rest
  let (ahead, rest) ← readOffset (Text.dropBlanks rest)
  unless (Text.dropBlanks rest).isEmpty do throw .trailing
  let some date := Day.of? year month day | throw .outOfRange
  unless ahead.natAbs < 24 * 60 do throw .outOfRange
  let leap := if second = 60 then 1 else 0
  let clock := 3600 * hour + 60 * minute + (second - leap)
  let some t := Instant.ofLocal? date clock (nanos + 1000000000 * leap) ahead
    | throw .unrepresentable
  pure t

end Alerting.Time
