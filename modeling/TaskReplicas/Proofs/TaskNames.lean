import TaskReplicas.Proofs.ByteOrder
import TaskReplicas.Proofs.DecimalDigits
import TaskReplicas.Proofs.SeededTasks

/-!
# Numbers in the names of tasks

Padding brings short numbers to one length, and numbers that are written with equally many digits
are in the order of these (`padded_lt_of_lt`). The names of tasks have the same text in front, so as
far as the padding reaches they are in the order of their numbers (`taskId_lt_iff`). It ends at
`9999`, which comes behind `10000`.
-/

set_option autoImplicit false

namespace TaskReplicas

/-! ## Padded numbers -/

/-- A padded number is as long as its digits ask for, and never shorter than the width. -/
theorem length_padded (width n : Nat) :
    (Decimal.padded width n).toList.length = max width (Nat.log 10 n + 1) := by
  unfold Decimal.padded
  rw [String.toList_ofList, List.leftpad, List.length_append, List.length_replicate, length_digits]
  omega

/-- A padded number has nothing but digits. -/
theorem isDigit_of_mem_padded {width n : Nat} {d : Char}
    (h : d ∈ (Decimal.padded width n).toList) : d.isDigit = true := by
  unfold Decimal.padded at h
  rw [String.toList_ofList, List.leftpad, List.mem_append] at h
  rcases h with zero | digit
  · rw [List.eq_of_mem_replicate zero]
    rfl
  · exact Decimal.isDigit_of_mem_digits digit

/-- Numbers that are padded to one length are in their order. -/
theorem padded_lt_of_lt {width m n : Nat}
    (long : (Decimal.padded width m).toList.length = (Decimal.padded width n).toList.length)
    (h : m < n) : Decimal.padded width m < Decimal.padded width n := by
  rcases lt_trichotomy (Decimal.padded width m) (Decimal.padded width n) with first | same | last
  · exact first
  · have spelled := ofDigitChars_padded width m
    rw [same, ofDigitChars_padded] at spelled
    omega
  · have spelled := ofDigitChars_lt_of_lt (fun _ => isDigit_of_mem_padded)
      (fun _ => isDigit_of_mem_padded) long.symm (String.lt_iff_toList_lt.mp last)
    rw [ofDigitChars_padded, ofDigitChars_padded] at spelled
    omega

/-! ## Names -/

/-- Numbers that are named by equally many digits: those that padding brings to four, and those that
have equally many of their own. -/
def NamedAlike (i j : Nat) : Prop := i < 10000 ∧ j < 10000 ∨ Nat.log 10 i = Nat.log 10 j

/-- Being named by equally many digits has no sides. -/
theorem NamedAlike.symm {i j : Nat} (h : NamedAlike i j) : NamedAlike j i := by
  rcases h with ⟨hi, hj⟩ | same
  · exact .inl ⟨hj, hi⟩
  · exact .inr same.symm

/-- Numbers that are named alike are equally long when they are padded. -/
theorem NamedAlike.length_padded_eq {i j : Nat} (h : NamedAlike i j) :
    (Decimal.padded 4 i).toList.length = (Decimal.padded 4 j).toList.length := by
  rw [length_padded, length_padded]
  rcases h with ⟨hi, hj⟩ | same
  · have := Nat.log_lt_of_lt_pow' (b := 10) (x := 4) (by decide) hi
    have := Nat.log_lt_of_lt_pow' (b := 10) (x := 4) (by decide) hj
    omega
  · rw [same]

/-- Of numbers that are named alike the smaller one has the smaller name. -/
theorem taskId_lt_of_lt {i j : Nat} (alike : NamedAlike i j) (h : i < j) : taskId i < taskId j := by
  have digits := padded_lt_of_lt alike.length_padded_eq h
  unfold taskId
  rw [String.lt_iff_toList_lt] at digits ⊢
  rw [String.toList_append, String.toList_append]
  exact List.append_left_lt digits

/-- Names of numbers that are named alike are in the order of the numbers. -/
theorem taskId_lt_iff {i j : Nat} (alike : NamedAlike i j) : taskId i < taskId j ↔ i < j := by
  constructor
  · intro before
    by_contra h
    rcases Nat.lt_or_eq_of_le (Nat.le_of_not_lt h) with greater | rfl
    · exact lt_asymm before (taskId_lt_of_lt alike.symm greater)
    · exact lt_irrefl _ before
  · exact taskId_lt_of_lt alike

/-- **Names tell tasks apart, and order them as far as the padding reaches.** Different numbers have
different names. A name ends in the digits of its number, and in zeros before them where there are
fewer than four. Among numbers below `10000`, and among numbers with equally many digits, the names
are in the order of the numbers, byte by byte. -/
theorem names_follow_numbers (i j : Nat) :
    (taskId i = taskId j → i = j) ∧
    (∃ digits : List Char, taskId i = "task-" ++ String.ofList digits ∧
      digits.length = max 4 (Nat.log 10 i + 1) ∧ (∀ d ∈ digits, d.isDigit = true) ∧
      Nat.ofDigitChars 10 digits 0 = i) ∧
    (NamedAlike i j → (i < j ↔ utf8Bytes (taskId i) < utf8Bytes (taskId j))) := by
  refine ⟨taskId_inj.mp, ?_, ?_⟩
  · refine ⟨(Decimal.padded 4 i).toList, ?_, length_padded 4 i, ?_, ofDigitChars_padded 4 i⟩
    · rw [String.ofList_toList, taskId]
    · intro d hd
      exact isDigit_of_mem_padded hd
  · intro alike
    rw [← taskId_lt_iff alike, ← compare_eq_lt_iff_utf8Bytes, compare_lt_iff_lt]

/-- The last two numbers that padding brings to one length, and the one behind them, the name of
which comes before both. -/
theorem names_follow_numbers_to_9999 :
    NamedAlike 9998 9999 ∧ utf8Bytes (taskId 9998) < utf8Bytes (taskId 9999) ∧
      utf8Bytes (taskId 10000) < utf8Bytes (taskId 9998) := by
  have alike : NamedAlike 9998 9999 := .inl (by decide)
  refine ⟨alike, ((names_follow_numbers 9998 9999).2.2 alike).mp (by decide), ?_⟩
  decide

end TaskReplicas
