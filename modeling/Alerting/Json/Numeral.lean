import Alerting.Decimal.Layout

/-!
# Numbers of documents

A number of a document is a whole number of 64 bits, with or without sign, or a
double. Whole numbers past that range are doubles, and so is minus zero.
-/
namespace Alerting.Json

inductive Numeral where
  | whole (n : Int)
  | real (x : Float)
deriving DecidableEq

namespace Numeral

def toFloat : Numeral → Float
  | whole n => if n < 0 then -Decimal.toFloat ⟨n.natAbs, 0⟩ else Decimal.toFloat ⟨n.natAbs, 0⟩
  | real x => x

/-- The written form of a number, whose doubles are finite. -/
def chars : Numeral → List Char
  | whole n => if n < 0 then '-' :: Nat.toDigits 10 n.natAbs else Nat.toDigits 10 n.natAbs
  | real x => Decimal.Layout.interchange.finite x

/-- The number that a whole count of units with a sign reads as. -/
def ofUnits (negative : Bool) (n : Nat) : Option Numeral :=
  if negative then if n = 0 ∨ 0x8000000000000000 < n then none else some (.whole (-n))
  else if n < 0x10000000000000000 then some (.whole n) else none

/-- The correctly rounded reading of a decimal with a sign, unless it is too large for a double. Round
trips rest on it, since rounding the significand and the power of ten apart may give a neighbour. -/
def ofDecimal (negative : Bool) (d : Decimal) : Option Numeral :=
  let x := d.toFloat
  if x.isInf then none else some (.real (if negative then -x else x))

end Numeral
end Alerting.Json
