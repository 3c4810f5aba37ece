/-!
# Decimal integers

Whole numbers are written in base ten, without a leading zero and with a minus sign below zero.
`Decimal.padded` brings a number up to a width with zeros in front and never cuts it.
-/

set_option autoImplicit false

-- Digits are worth powers of ten. The program and its theory read a power and a zero of the
-- naturals in the same way, that of the core library, also where the algebraic library has its own.
attribute [instance (high), default_instance (high + 1)] instPowNat
attribute [instance (high)] Zero.ofOfNat0

namespace TaskReplicas.Decimal

/-- The digits of a number in base ten, the most significant first. -/
def digits (n : Nat) : List Char := Nat.toDigits 10 n

/-- The digits of a number are decimal digits. -/
theorem isDigit_of_mem_digits {n : Nat} {d : Char} (h : d ∈ digits n) : d.isDigit = true :=
  Nat.isDigit_of_mem_toDigits (by decide) (by decide) h

/-- The digits of a number spell it. -/
theorem ofDigitChars_digits (n : Nat) : Nat.ofDigitChars 10 (digits n) 0 = n :=
  Nat.ofDigitChars_ten_toDigits

/-- A number in base ten. -/
def natural (n : Nat) : String := String.ofList (digits n)

/-- A whole number in base ten, with a minus sign in front of it when it is below zero. -/
def integer : Int → String
  | .ofNat n => natural n
  | .negSucc n => "-" ++ natural (n + 1)

/-- A number in base ten with as many zeros in front as it takes to fill the width. -/
def padded (width n : Nat) : String := String.ofList ((digits n).leftpad width '0')

end TaskReplicas.Decimal
