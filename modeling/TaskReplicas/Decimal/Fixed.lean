import TaskReplicas.Decimal.Double
import TaskReplicas.Decimal.Integer

/-!
# Fixed places

A double is printed with a fixed number of decimal places: its exact value is rounded to the
nearest number with so many places, and a tie goes to the even last digit. The sign is printed
whenever it is set, also in front of a zero; what is not a number has no sign.
-/

set_option autoImplicit false

namespace TaskReplicas.Decimal

/-- The quotient rounded to the nearest whole number, a tie to the even one. -/
def roundDiv (a b : Nat) : Nat :=
  let q := a / b
  let r := a % b
  if 2 * r < b then q else if b < 2 * r then q + 1 else q + q % 2

/-- The number `mantissa * 2 ^ exponent` in units of `10 ^ -places`, rounded. -/
def units (places mantissa : Nat) (exponent : Int) : Nat :=
  if 0 ≤ exponent then mantissa * 2 ^ exponent.toNat * 10 ^ places
  else roundDiv (mantissa * 10 ^ places) (2 ^ (-exponent).toNat)

/-- A number of units of `10 ^ -places` as text with so many places. -/
def placed (places n : Nat) : String :=
  if places = 0 then natural n
  else natural (n / 10 ^ places) ++ "." ++ padded places (n % 10 ^ places)

/-- The sign in front of a number. -/
def sign (negative : Bool) : String := if negative then "-" else ""

/-- A double with a fixed number of decimal places. -/
def fixed (places : Nat) (bits : UInt64) : String :=
  match Double.ofBits bits with
  | .nan => "NaN"
  | .infinite negative => sign negative ++ "inf"
  | .finite negative mantissa exponent _ =>
    sign negative ++ placed places (units places mantissa exponent)

end TaskReplicas.Decimal
