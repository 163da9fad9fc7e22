import Alerting.Decimal.Basic

/-!
# Reading a number from text

Free-standing numbers have an optional sign and are digits with an optional
point and exponent, or one of the words `inf`, `infinity` and `nan` in any case.
-/
namespace Alerting.Decimal

/-- An exponent with an optional sign, which takes the whole text. -/
def readExponent? (text : List Char) : Option Int :=
  let (negative, digits) := splitSign text
  if digits.isEmpty || !digits.all Char.isDigit then none
  else some (if negative then -(valueOf digits : Int) else valueOf digits)

/-- Digits with an optional point among them and an optional exponent. -/
def read? (text : List Char) : Option Decimal :=
  let whole := text.takeWhile Char.isDigit
  let afterWhole := text.dropWhile Char.isDigit
  let (fraction, rest) :=
    match afterWhole with
    | '.' :: more => (more.takeWhile Char.isDigit, more.dropWhile Char.isDigit)
    | more => ([], more)
  let digits := whole ++ fraction
  if digits.isEmpty then none
  else
    match rest with
    | [] => some ⟨valueOf digits, -fraction.length⟩
    | e :: more =>
      if e = 'e' || e = 'E' then
        (readExponent? more).map fun n => ⟨valueOf digits, n - fraction.length⟩
      else none

/-- A number or a word for one, without sign. -/
def readMagnitude? (text : List Char) : Option Float :=
  let word := String.ofList (text.map Char.toLower)
  if word = "inf" || word = "infinity" then some infinity
  else if word = "nan" then some notANumber
  else (read? text).map toFloat

def readFloat? (text : String) : Option Float :=
  let (negative, rest) := splitSign text.toList
  (readMagnitude? rest).map fun x => if negative then -x else x

end Alerting.Decimal
