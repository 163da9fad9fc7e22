import Alerting.Decimal.Basic

/-!
# The shortest decimal of a double

A double is written with the fewest digits that read back as the same double.
Each number of digits gives a grid of decimals; only the two grid points around
the double can be nearest, and of two that read back the nearer is taken.
-/
namespace Alerting.Decimal

/-- Which of two equally near decimals is written. -/
inductive Tie where
  | up
  | even
deriving DecidableEq, Repr

def signBit (x : Float) : Bool := 0x8000000000000000 ≤ x.toBits.toNat

/-- The significand and the power of two of a finite double, its sign aside. -/
def significand (x : Float) : Nat × Int :=
  let bits : Nat := x.toBits.toNat % 0x8000000000000000
  let field : Nat := bits / 0x10000000000000
  let low : Nat := bits % 0x10000000000000
  if field = 0 then (low, -1074) else (low + 0x10000000000000, (field : Int) - 1075)

def ratio (x : Float) : Nat × Nat :=
  let (s, e) := significand x
  if 0 ≤ e then (s * Nat.pow 2 e.toNat, 1) else (s, Nat.pow 2 (-e).toNat)

/-- The power of ten of the first digit of a positive fraction. -/
def leadingPower (num den : Nat) : Int :=
  if den ≤ num then digitCount (num / den) - 1
  else -(digitCount ((den + num - 1) / num - 1))

/-- The decimals on the grid of `10 ^ exponent` that are next to a fraction, and how the fraction
stands to the middle between them. -/
def neighbours (num den : Nat) (exponent : Int) : Decimal × Decimal × Ordering :=
  let n := if 0 ≤ exponent then num else num * Nat.pow 10 (-exponent).toNat
  let d := if 0 ≤ exponent then den * Nat.pow 10 exponent.toNat else den
  (⟨n / d, exponent⟩, ⟨n / d + 1, exponent⟩, compare (2 * (n % d)) d)

def Tie.choose (tie : Tie) (below above : Decimal) : Ordering → Decimal
  | .lt => below
  | .gt => above
  | .eq =>
    match tie with
    | .up => above
    | .even => if below.digits % 2 = 0 then below else above

/-- The neighbour on a grid that reads back as `x`, which is not negative. -/
def onGrid? (tie : Tie) (x : Float) (exponent : Int) : Option Decimal :=
  let (num, den) := ratio x
  let (below, above, side) := neighbours num den exponent
  match below.toFloat == x, above.toFloat == x with
  | true, true => some (tie.choose below above side)
  | true, false => some below
  | false, true => some above
  | false, false => none

/-- All digits of the magnitude of a finite double. -/
def exact (x : Float) : Decimal :=
  let (s, e) := significand x
  if 0 ≤ e then ⟨s * Nat.pow 2 e.toNat, 0⟩ else ⟨s * Nat.pow 5 (-e).toNat, e⟩

/-- The shortest decimal of the magnitude of a finite double. Seventeen digits are enough to tell
any two doubles apart. -/
def shortest (tie : Tie) (x : Float) : Decimal :=
  let y := x.abs
  let (num, den) := ratio y
  if num = 0 then ⟨0, 0⟩
  else
    let first := leadingPower num den
    (((List.range 17).findSome? fun (n : Nat) => onGrid? tie y (first - n)).getD (exact y)).trim

end Alerting.Decimal
