import TaskReplicas.Decimal.Shortest
import TaskReplicas.Json.Defect

/-!
# Numbers

A number without fraction and exponent that fits 64 bits, signed or unsigned, is an integer; minus
zero and every other number is a double. Digits are absorbed into a significand while that fits 64
bits; further digits before the point only shift it, and further digits behind the point are
dropped. The double is the significand as a double, times or divided by a power of ten, and a number
too large for a double is malformed.
-/

set_option autoImplicit false

namespace TaskReplicas.Json

/-- A number as it is read. -/
inductive Number
  /-- A whole number of at most 64 bits. -/
  | integer (n : Int)
  /-- Any other number: the bits of a double. -/
  | double (bits : UInt64)
deriving DecidableEq

/-- The value of a decimal digit. -/
def digitValue (c : Char) : Nat := c.toNat - '0'.toNat

/-- The number that a run of digits names, read on from what stands before it. -/
def digitsValue (before : Nat) (ds : List Char) : Nat :=
  ds.foldl (fun n d => 10 * n + digitValue d) before

/-- A significand and the number of digits that went into it and that did not. -/
structure Absorbed where
  /-- The significand after the digits. -/
  significand : Nat
  /-- How many digits went into the significand. -/
  taken : Nat
  /-- How many digits were left when the next one did not fit. -/
  left : Nat
deriving DecidableEq

/-- Absorbs digits into a significand while it stays below `2 ^ 64`. -/
def absorb (significand : Nat) : List Char → Absorbed
  | [] => ⟨significand, 0, 0⟩
  | d :: ds =>
    let next := significand * 10 + digitValue d
    if next < 2 ^ 64 then
      let rest := absorb next ds
      { rest with taken := rest.taken + 1 }
    else ⟨significand, 0, ds.length + 1⟩

/-- The double nearest to a power of ten. -/
def powerOfTen (k : Nat) : Float := Float.ofScientific 1 false k

/-- A double divided by `10 ^ k`, in steps of at most `10 ^ 308`. -/
def dividedByPower (f : Float) (k : Nat) : Float :=
  if k ≤ 308 then f / powerOfTen k
  else if f == 0 then f
  else dividedByPower (f / powerOfTen 308) (k - 308)
termination_by k

/-- The double for a significand times a power of ten, unless it is too large. -/
def scaled? (significand : Nat) (exponent : Int) : Option Float :=
  let f := significand.toUInt64.toFloat
  if exponent < 0 then some (dividedByPower f (-exponent).toNat)
  else if exponent ≤ 308 then
    let g := f * powerOfTen exponent.toNat
    if g.isInf then none else some g
  else if significand = 0 then some f
  else none

namespace Number

/-- A sign, a significand and a power of ten as a double. -/
def ofParts (negative : Bool) (significand : Nat) (exponent : Int) : Except Defect Number :=
  match scaled? significand exponent with
  | some f => .ok (.double (if negative then -f else f).toBits)
  | none => .error .malformed

/-- A sign and a significand without fraction and exponent. A negative number below the signed
range, and minus zero, are doubles. -/
def ofSignificand (negative : Bool) (significand : Nat) : Except Defect Number :=
  if !negative then .ok (.integer significand)
  else if 0 < significand ∧ significand ≤ 2 ^ 63 then .ok (.integer (-significand))
  else ofParts negative significand 0

/-- Reads the sign of an exponent, which may be missing: whether it is a minus. -/
def exponentSign : List Char → Bool × List Char
  | '+' :: rest => (false, rest)
  | '-' :: rest => (true, rest)
  | cs => (false, cs)

/-- A number whose written exponent shifts it further. A shift of more than 31 bits makes any
number but zero too large, or zero. -/
def shifted (negative : Bool) (significand : Nat) (exponent : Int) (down : Bool) (shift : Nat) :
    Except Defect Number :=
  if shift < 2 ^ 31 then
    ofParts negative significand (if down then exponent - shift else exponent + shift)
  else if significand = 0 ∨ down then ofParts negative 0 0
  else .error .malformed

/-- Reads what follows the mark of an exponent. -/
def afterMark (negative : Bool) (significand : Nat) (exponent : Int) (cs : List Char) :
    Except Defect (Number × List Char) :=
  let down := (exponentSign cs).1
  let ds := (exponentSign cs).2.takeWhile Char.isDigit
  let rest := (exponentSign cs).2.dropWhile Char.isDigit
  if ds.isEmpty then .error (.at rest)
  else (shifted negative significand exponent down (digitsValue 0 ds)).map (·, rest)

/-- Reads what may follow the digits of a number: an exponent, or nothing more of it. -/
def afterDigits (negative : Bool) (significand : Nat) (exponent : Int) (whole : Bool) :
    List Char → Except Defect (Number × List Char)
  | 'e' :: rest => afterMark negative significand exponent rest
  | 'E' :: rest => afterMark negative significand exponent rest
  | cs =>
    let number :=
      if whole then ofSignificand negative significand
      else ofParts negative significand exponent
    number.map (·, cs)

/-- Reads what follows the whole part of a number: a fraction, an exponent, or nothing more. -/
def afterWhole (negative : Bool) (significand left : Nat) :
    List Char → Except Defect (Number × List Char)
  | '.' :: cs =>
    let ds := cs.takeWhile Char.isDigit
    let rest := cs.dropWhile Char.isDigit
    if ds.isEmpty then .error (.at rest)
    else
      let fraction := absorb significand ds
      afterDigits negative fraction.significand (left - fraction.taken) false rest
  | cs => afterDigits negative significand left (left = 0) cs

/-- Reads a number after its sign. A zero is the whole part alone. -/
def magnitude (negative : Bool) : List Char → Except Defect (Number × List Char)
  | '0' :: rest =>
    if (rest.takeWhile Char.isDigit).isEmpty then afterWhole negative 0 0 rest
    else .error .malformed
  | cs =>
    let ds := cs.takeWhile Char.isDigit
    let rest := cs.dropWhile Char.isDigit
    if ds.isEmpty then .error (.at rest)
    else
      let whole := absorb 0 ds
      afterWhole negative whole.significand whole.left rest

/-- Reads a number: what it is, and what follows it. -/
def read : List Char → Except Defect (Number × List Char)
  | '-' :: rest => magnitude true rest
  | cs => magnitude false cs

/-- A number as it is written. -/
def text : Number → List Char
  | integer n => (Decimal.integer n).toList
  | double bits => (Decimal.shortest bits).toList

end Number

/-- Dropping characters leaves no more of them. -/
theorem length_dropWhile_le (p : Char → Bool) (cs : List Char) :
    (cs.dropWhile p).length ≤ cs.length := (List.dropWhile_sublist p).length_le

/-- A result that was paired with the rest of a text leaves that rest. -/
theorem eq_of_map_pair {α β : Type} {e : Except Defect α} {x : α × β} {b : β}
    (h : e.map (·, b) = .ok x) : x.2 = b := by
  cases e with
  | error d => cases h
  | ok a => cases h; rfl

/-- Behind a sign there is no more left. -/
theorem length_exponentSign_le (cs : List Char) :
    (Number.exponentSign cs).2.length ≤ cs.length := by
  unfold Number.exponentSign
  split <;> simp

/-- Behind an exponent there is no more left. -/
theorem length_of_afterMark {negative : Bool} {significand : Nat} {exponent : Int}
    {cs : List Char} {x : Number × List Char}
    (h : Number.afterMark negative significand exponent cs = .ok x) :
    x.2.length ≤ cs.length := by
  simp only [Number.afterMark] at h
  split at h
  · cases h
  · rw [eq_of_map_pair h]
    exact Nat.le_trans (length_dropWhile_le _ _) (length_exponentSign_le cs)

/-- Behind what follows the digits there is no more left. -/
theorem length_of_afterDigits {negative : Bool} {significand : Nat} {exponent : Int}
    {whole : Bool} {cs : List Char} {x : Number × List Char}
    (h : Number.afterDigits negative significand exponent whole cs = .ok x) :
    x.2.length ≤ cs.length := by
  unfold Number.afterDigits at h
  split at h
  · exact Nat.le_succ_of_le (length_of_afterMark h)
  · exact Nat.le_succ_of_le (length_of_afterMark h)
  · exact Nat.le_of_eq (congrArg List.length (eq_of_map_pair h))

/-- Behind what follows the whole part there is no more left. -/
theorem length_of_afterWhole {negative : Bool} {significand left : Nat} {cs : List Char}
    {x : Number × List Char} (h : Number.afterWhole negative significand left cs = .ok x) :
    x.2.length ≤ cs.length := by
  unfold Number.afterWhole at h
  split at h
  · simp only at h
    split at h
    · cases h
    · refine Nat.le_trans (length_of_afterDigits h) ?_
      exact Nat.le_succ_of_le (length_dropWhile_le _ _)
  · exact length_of_afterDigits h

/-- Behind a number there is less left. -/
theorem length_of_magnitude {negative : Bool} {cs : List Char} {x : Number × List Char}
    (h : Number.magnitude negative cs = .ok x) : x.2.length < cs.length := by
  unfold Number.magnitude at h
  split at h
  · split at h
    · exact Nat.lt_succ_of_le (length_of_afterWhole h)
    · cases h
  · simp only at h
    split at h
    · cases h
    · rename_i hne
      refine Nat.lt_of_le_of_lt (length_of_afterWhole h) ?_
      have hsplit := congrArg List.length (@List.takeWhile_append_dropWhile _ Char.isDigit cs)
      have : 0 < (cs.takeWhile Char.isDigit).length := by
        cases hd : cs.takeWhile Char.isDigit with
        | nil => simp [hd] at hne
        | cons _ _ => simp
      simp only [List.length_append] at hsplit
      omega

/-- A number takes at least one digit of the text. -/
theorem length_of_numberRead {cs : List Char} {x : Number × List Char}
    (h : Number.read cs = .ok x) : x.2.length < cs.length := by
  unfold Number.read at h
  split at h
  · exact Nat.lt_succ_of_lt (length_of_magnitude h)
  · exact length_of_magnitude h

end TaskReplicas.Json
