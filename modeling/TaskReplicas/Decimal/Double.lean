import TaskReplicas.Decimal.Integer

/-!
# Doubles, exactly

A finite double is a sign and a magnitude `mantissa * 2 ^ exponent` of whole numbers, read off its
64 bits. Everything that is printed of a double is computed from that, in exact arithmetic.
-/

set_option autoImplicit false

namespace TaskReplicas.Decimal

/-- What the bits of a double stand for. -/
inductive Double
  /-- Not a number. -/
  | nan
  /-- An infinity, and whether it is the negative one. -/
  | infinite (negative : Bool)
  /-- The number `mantissa * 2 ^ exponent`, and whether its sign is set. In `narrow` the double
  below the number is half as far away as the one above it. -/
  | finite (negative : Bool) (mantissa : Nat) (exponent : Int) (narrow : Bool)
deriving DecidableEq

/-- Reads the 64 bits of a double: one for the sign, eleven for the exponent and 52 for the
fraction, before which a leading one is understood unless the exponent bits are all zero. -/
def Double.ofBits (bits : UInt64) : Double :=
  let negative : Bool := bits.toNat / 2 ^ 63 = 1
  let exponent : Nat := bits.toNat / 2 ^ 52 % 2 ^ 11
  let fraction : Nat := bits.toNat % 2 ^ 52
  if exponent = 2047 then (if fraction = 0 then .infinite negative else .nan)
  else if exponent = 0 then .finite negative fraction (-1074) false
  else .finite negative (2 ^ 52 + fraction) ((exponent : Int) - 1075) (fraction = 0 && 1 < exponent)

end TaskReplicas.Decimal
