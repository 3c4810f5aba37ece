import TaskReplicas.Decimal.Fixed

/-!
# Shortest decimals

A double is printed with the fewest digits that read back as the same double. The decimals that
read back as a double fill an interval around it, reaching half way to its neighbours, ends
included when the mantissa is even. On the coarsest grid of multiples of a power of ten that has a
point in the interval, the point nearest to the double is taken, and of two equally near points the
even one. The text is positional while the leading digit stands between the fifth place after the
point and the sixteenth before it, and has an exponent otherwise.
-/

set_option autoImplicit false

namespace TaskReplicas.Decimal

/-- The multiple of `10 ^ power` that is in the interval of decimals read back as
`mantissa * 2 ^ exponent` and nearest to it, if there is one. All is counted in a quarter of the
unit in the last place, over a common denominator. -/
def onGrid? (mantissa : Nat) (exponent : Int) (narrow : Bool) (power : Int) : Option Nat :=
  let quarter := 2 ^ (exponent - 2).toNat * 10 ^ (-power).toNat
  let step := 2 ^ (2 - exponent).toNat * 10 ^ power.toNat
  let value := 4 * mantissa * quarter
  let low := (4 * mantissa - if narrow then 1 else 2) * quarter
  let high := (4 * mantissa + 2) * quarter
  let inside (c : Nat) : Bool :=
    if mantissa % 2 = 0 then low ≤ c * step && c * step ≤ high
    else low < c * step && c * step < high
  let c := value / step
  let below := value - c * step
  let above := (c + 1) * step - value
  match inside c, inside (c + 1) with
  | false, false => none
  | true, false => some c
  | false, true => some (c + 1)
  | true, true =>
    some (if below < above then c else if above < below then c + 1 else c + c % 2)

/-- The first of the grids `10 ^ power`, `10 ^ (power - 1)`, … that has a point in the interval:
the multiple, and the power. -/
def coarsest (mantissa : Nat) (exponent : Int) (narrow : Bool) (power : Int) :
    Nat → Nat × Int
  | 0 => (0, power)
  | steps + 1 =>
    match onGrid? mantissa exponent narrow power with
    | some c => (c, power)
    | none => coarsest mantissa exponent narrow (power - 1) steps

/-- The digits and the power of ten of the shortest decimal of a positive double. No double reaches
`10 ^ 309`, and each is a multiple of `10 ^ -1074`. -/
def shortestDigits (mantissa : Nat) (exponent : Int) (narrow : Bool) : List Char × Int :=
  let (c, power) := coarsest mantissa exponent narrow 309 1384
  (digits c, power)

/-- Digits with a point behind the leading one, unless it stands alone. -/
def pointed : List Char → List Char
  | [] => []
  | [d] => [d]
  | d :: ds => d :: '.' :: ds

/-- The decimal `0.ds * 10 ^ (e + 1)`, where `e` is the place of the leading digit. -/
def layout (ds : List Char) (power : Int) : List Char :=
  let e := power + ds.length - 1
  if -5 ≤ e ∧ e ≤ 15 then
    if 0 ≤ power then ds ++ List.replicate power.toNat '0' ++ ['.', '0']
    else if 0 ≤ e then ds.take (e.toNat + 1) ++ '.' :: ds.drop (e.toNat + 1)
    else '0' :: '.' :: List.replicate (-e - 1).toNat '0' ++ ds
  else
    pointed ds ++ 'e' :: (if 0 ≤ e then '+' else '-') :: digits e.natAbs

/-- A double with the fewest digits that read back as it. -/
def shortest (bits : UInt64) : String :=
  match Double.ofBits bits with
  | .nan => "NaN"
  | .infinite negative => sign negative ++ "inf"
  | .finite negative mantissa exponent narrow =>
    if mantissa = 0 then sign negative ++ "0.0"
    else
      let (ds, power) := shortestDigits mantissa exponent narrow
      sign negative ++ String.ofList (layout ds power)

end TaskReplicas.Decimal
