/-!
# Decimal numbers and doubles

A decimal is a whole number of units of a power of ten. Its double is the
nearest one, with ties to the even significand; a decimal past the largest
double gives an infinity and one below half the smallest gives zero.
-/
namespace Alerting

/-- The number `digits * 10 ^ exponent`. -/
structure Decimal where
  digits : Nat
  exponent : Int
deriving DecidableEq, Repr

namespace Decimal

def infinity : Float := 1.0 / 0.0

def notANumber : Float := 0.0 / 0.0

/-- How many decimal digits `n` has; zero has one. -/
def digitCount (n : Nat) : Nat := (Nat.toDigits 10 n).length

/-- The double nearest to a decimal. The power of ten above the number decides the far ends
before any large power is computed. -/
def toFloat (d : Decimal) : Float :=
  let above := d.exponent + digitCount d.digits
  if d.digits = 0 then 0.0
  else if 309 < above then infinity
  else if above < -323 then 0.0
  else Float.ofScientific d.digits (d.exponent < 0) d.exponent.natAbs

def valueOf (digits : List Char) : Nat :=
  digits.foldl (fun n c => 10 * n + (c.toNat - '0'.toNat)) 0

/-- Whether a text starts with a minus, and the text after a sign, if it has one. -/
def splitSign : List Char → Bool × List Char
  | '-' :: rest => (true, rest)
  | '+' :: rest => (false, rest)
  | rest => (false, rest)

theorem length_splitSign (text : List Char) : (splitSign text).2.length ≤ text.length := by
  unfold splitSign
  split <;> simp

/-- The same number without zeros at the end of its digits. -/
def trim (d : Decimal) : Decimal :=
  let zeros := ((Nat.toDigits 10 d.digits).reverse.takeWhile (· = '0')).length
  if d.digits = 0 then ⟨0, 0⟩ else ⟨d.digits / Nat.pow 10 zeros, d.exponent + zeros⟩

/-- The power of ten of the first digit. -/
def leading (d : Decimal) : Int := d.exponent + digitCount d.digits - 1

end Decimal
end Alerting
