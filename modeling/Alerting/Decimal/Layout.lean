import Alerting.Decimal.Shortest

/-!
# How numbers are written

A layout says when a number takes the exponent form and how whole numbers end.
Two layouts are in use: `plain`, for displays, and `interchange`, for documents.
-/
namespace Alerting.Decimal

structure Layout where
  tie : Tie
  /-- The powers of ten of the first digit that are written without exponent. -/
  positional : Int → Bool
  /-- Ends a whole number that has no exponent. -/
  wholeEnd : List Char

namespace Layout

/-- Numbers in displays have no exponent, and whole ones have no point. -/
def plain : Layout := ⟨.up, fun _ => true, []⟩

/-- Numbers in documents have a point or an exponent, and the exponent has a sign. -/
def interchange : Layout := ⟨.even, fun p => -5 ≤ p && p < 16, ['.', '0']⟩

/-- The digits of a decimal with the point in its place. -/
def positionalForm (wholeEnd : List Char) (d : Decimal) : List Char :=
  let digits := Nat.toDigits 10 d.digits
  if 0 ≤ d.exponent then digits ++ List.replicate d.exponent.toNat '0' ++ wholeEnd
  else
    let places := (-d.exponent).toNat
    if places < digits.length then
      digits.take (digits.length - places) ++ '.' :: digits.drop (digits.length - places)
    else '0' :: '.' :: (List.replicate (places - digits.length) '0' ++ digits)

/-- One digit, the others after a point, and the power of ten of the first. -/
def exponentForm (d : Decimal) : List Char :=
  let digits := Nat.toDigits 10 d.digits
  let fraction := if digits.length ≤ 1 then [] else '.' :: digits.drop 1
  digits.take 1 ++ fraction ++ 'e' :: (if d.leading < 0 then '-' else '+') ::
    Nat.toDigits 10 d.leading.natAbs

def magnitude (layout : Layout) (x : Float) : List Char :=
  let d := shortest layout.tie x
  if layout.positional d.leading then positionalForm layout.wholeEnd d else exponentForm d

def finite (layout : Layout) (x : Float) : List Char :=
  if signBit x then '-' :: layout.magnitude x else layout.magnitude x

end Layout

def display (x : Float) : String :=
  if x.isNaN then "NaN"
  else if x.isInf then if signBit x then "-inf" else "inf"
  else String.ofList (Layout.plain.finite x)

end Alerting.Decimal
