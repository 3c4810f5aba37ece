import Mathlib.Data.Nat.Log
import TaskReplicas.Decimal.Integer

/-!
# Digits and the numbers they spell

A row of decimal digits spells a number below `10` to the length of the row
(`ofDigitChars_lt_pow`). So where two rows of one length first differ, the digits in front decide:
whatever follows is worth less than one of the digit there (`ofDigitChars_lt_of_lt`). A number is
written with the fewest digits that are enough for it (`length_digits`), and from what is written,
with a minus sign or without, the number is known again (`integer_injective`).
-/

set_option autoImplicit false

namespace TaskReplicas

/-! ## Rows of digits -/

/-- The ten digits follow each other. -/
theorem digit_bounds {d : Char} (h : d.isDigit = true) :
    '0'.toNat ≤ d.toNat ∧ d.toNat < '0'.toNat + 10 := by
  rw [Char.isDigit_iff_toNat] at h
  exact ⟨h.1, Nat.lt_succ_of_le h.2⟩

/-- So many digits spell a number below ten to that power. -/
theorem ofDigitChars_lt_pow {ds : List Char} (h : ∀ d ∈ ds, d.isDigit = true) :
    Nat.ofDigitChars 10 ds 0 < 10 ^ ds.length := by
  induction ds with
  | nil => simp
  | cons d ds ih =>
    rw [List.forall_mem_cons] at h
    have first := digit_bounds h.1
    have rest := ih h.2
    rw [Nat.ofDigitChars_cons, Nat.ofDigitChars_eq_ofDigitChars_zero, List.length_cons,
      Nat.pow_succ]
    generalize Nat.ofDigitChars 10 ds 0 = r at rest ⊢
    generalize 10 ^ ds.length = unit at rest ⊢
    have worth : unit * (10 * 0 + (d.toNat - '0'.toNat)) ≤ unit * 9 :=
      Nat.mul_le_mul_left unit (by omega)
    omega

/-- Of two rows of digits that are equally long, the one that comes first spells the smaller
number. -/
theorem ofDigitChars_lt_of_lt {ds es : List Char} (hd : ∀ d ∈ ds, d.isDigit = true)
    (he : ∀ e ∈ es, e.isDigit = true) (long : ds.length = es.length) (h : ds < es) :
    Nat.ofDigitChars 10 ds 0 < Nat.ofDigitChars 10 es 0 := by
  induction h with
  | nil => cases long
  | @rel d ds e es smaller =>
    rw [List.forall_mem_cons] at hd he
    rw [List.length_cons, List.length_cons, Nat.succ_inj] at long
    have lead : d.toNat < e.toNat := smaller
    have digit := digit_bounds hd.1
    have below := ofDigitChars_lt_pow hd.2
    rw [Nat.ofDigitChars_cons, Nat.ofDigitChars_cons, Nat.ofDigitChars_eq_ofDigitChars_zero,
      Nat.ofDigitChars_eq_ofDigitChars_zero (l := es), ← long]
    generalize 10 ^ ds.length = unit at below ⊢
    -- one more of the leading digit is worth more than all that stands behind it
    have worth : unit * (10 * 0 + (d.toNat - '0'.toNat) + 1) ≤
        unit * (10 * 0 + (e.toNat - '0'.toNat)) := Nat.mul_le_mul_left unit (by omega)
    rw [Nat.mul_succ] at worth
    omega
  | @cons d ds es _ ih =>
    rw [List.forall_mem_cons] at hd he
    rw [List.length_cons, List.length_cons, Nat.succ_inj] at long
    have rest := ih hd.2 he.2 long
    rw [Nat.ofDigitChars_cons, Nat.ofDigitChars_cons, Nat.ofDigitChars_eq_ofDigitChars_zero,
      Nat.ofDigitChars_eq_ofDigitChars_zero (l := es), long]
    exact Nat.add_lt_add_left rest _

/-! ## Written numbers -/

/-- A number has one digit more than its logarithm. -/
theorem length_digits (n : Nat) : (Decimal.digits n).length = Nat.log 10 n + 1 := by
  induction n using Nat.strongRecOn with
  | ind n ih =>
    unfold Decimal.digits at ih ⊢
    rw [Nat.toDigits_eq_if (by decide)]
    by_cases small : n < 10
    · rw [if_pos small, Nat.log_of_lt small]
      rfl
    · have long : 10 ≤ n := Nat.le_of_not_lt small
      rw [if_neg small, List.length_append, ih (n / 10) (by omega),
        Nat.log_of_one_lt_of_le (by decide) long]
      rfl

/-- The text of a number has one character more than the logarithm of the number. -/
theorem length_natural (n : Nat) : (Decimal.natural n).length = Nat.log 10 n + 1 := by
  rw [Decimal.natural, String.length_ofList, length_digits]

/-- Numbers are known by their texts. -/
theorem natural_injective : Function.Injective Decimal.natural := by
  intro m n same
  have digits : Decimal.digits m = Decimal.digits n := String.ofList_injective same
  rw [← Decimal.ofDigitChars_digits m, digits, Decimal.ofDigitChars_digits]

/-- The text of a number has nothing but digits. -/
theorem isDigit_of_mem_natural {n : Nat} {c : Char} (h : c ∈ (Decimal.natural n).toList) :
    c.isDigit = true := by
  unfold Decimal.natural at h
  rw [String.toList_ofList] at h
  exact Decimal.isDigit_of_mem_digits h

/-- A minus sign and digits are all there is in a whole number. -/
theorem integer_char {n : Int} {c : Char} (h : c ∈ (Decimal.integer n).toList) :
    c = '-' ∨ c.isDigit = true := by
  cases n with
  | ofNat n => exact .inr (isDigit_of_mem_natural h)
  | negSucc n =>
    unfold Decimal.integer at h
    rw [String.toList_append, List.mem_append] at h
    rcases h with sign | digit
    · exact .inl (List.mem_singleton.mp sign)
    · exact .inr (isDigit_of_mem_natural digit)

/-- Whole numbers are known by their texts. -/
theorem integer_injective : Function.Injective Decimal.integer := by
  have signed {m n : Nat} : Decimal.natural m ≠ "-" ++ Decimal.natural (n + 1) := by
    intro same
    have sign : '-' ∈ (Decimal.natural m).toList := by
      rw [same, String.toList_append]
      exact List.mem_cons_self
    cases isDigit_of_mem_natural sign
  intro m n same
  cases m with
  | ofNat m =>
    cases n with
    | ofNat n => rw [natural_injective same]
    | negSucc n => exact absurd same signed
  | negSucc m =>
    cases n with
    | ofNat n => exact absurd same.symm signed
    | negSucc n =>
      have digits := natural_injective ((String.append_right_inj "-").mp same)
      rw [Nat.succ_inj.mp digits]

end TaskReplicas
