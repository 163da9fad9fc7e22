/-!
# Doubles as they are kept

A double that is no number has a sign and a payload, which arithmetic and comparisons do not see.
The total order of all doubles sees them, so a double is kept as its bits.
-/
namespace Alerting

structure Binary64 where
  bits : UInt64
deriving DecidableEq

namespace Binary64

/-- The value of the double, which is one and the same for all that is no number. -/
def toFloat (x : Binary64) : Float := .ofBits x.bits

def ofFloat (x : Float) : Binary64 := ⟨x.toBits⟩

def signBit (x : Binary64) : Bool := 0x8000000000000000 ≤ x.bits.toNat

/-- The place of a double in the total order of all doubles. Those with a minus come first, in the
reverse order of their bits, and the others follow in the order of theirs, so what is no number
stands at both ends. -/
def rank (x : Binary64) : Nat :=
  if x.signBit then 0xFFFFFFFFFFFFFFFF - x.bits.toNat else x.bits.toNat + 0x8000000000000000

end Binary64
end Alerting
