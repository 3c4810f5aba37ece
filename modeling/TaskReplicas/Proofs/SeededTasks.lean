import TaskReplicas.Proofs.Absorption
import TaskReplicas.Replica.Seeded

/-!
# What the seeded replica holds

Tasks are told apart by their numbers: padding a number with zeros does not change the number that
its digits spell (`ofDigitChars_padded`), so no two numbers name the same task (`taskId_inj`),
however long they are. The seeded replica for `n` tasks then holds exactly the tasks with an even
number below `n`, each with its description and nothing else (`Replica.properties?_seeded`).
-/

set_option autoImplicit false

namespace TaskReplicas

/-! ## Numbers and names -/

/-- The digits of a padded number spell the number: zeros in front add nothing. -/
theorem ofDigitChars_padded (width n : Nat) :
    Nat.ofDigitChars 10 (Decimal.padded width n).toList 0 = n := by
  rw [Decimal.padded, String.toList_ofList, List.leftpad, Nat.ofDigitChars_append,
    Nat.ofDigitChars_replicate_zero, Nat.mul_zero, Decimal.ofDigitChars_digits]

/-- Tasks with different numbers have different names. -/
theorem taskId_inj {i j : Nat} : taskId i = taskId j ↔ i = j := by
  constructor
  · intro h
    have same : Decimal.padded 4 i = Decimal.padded 4 j := String.append_right_inj _ |>.mp h
    rw [← ofDigitChars_padded 4 i, same, ofDigitChars_padded]
  · rintro rfl
    rfl

/-- Which numbers are even and below a bound. -/
theorem mem_evensBelow {n i : Nat} : i ∈ evensBelow n ↔ i < n ∧ i % 2 = 0 := by
  simp [evensBelow]

/-! ## Seeding -/

/-- What seeding makes of a task: it is there, with its description set. -/
def described (held : Option Properties) : Properties :=
  (held.getD ∅).alter "description" fun _ => some "seed"

namespace Replica

/-- Seeding a number describes the task of that number and leaves every other task alone. -/
theorem properties?_run_seedLog (s : Replica) (i : Nat) (t : String) :
    (s.run (seedLog i)).properties? t =
      if taskId i = t then some (described (s.properties? t)) else s.properties? t := by
  rw [properties?_run]
  by_cases h : taskId i = t
  · rw [if_pos h, List.filter_eq_self.mpr (by simp [seedLog, h])]
    rfl
  · rw [if_neg h, List.filter_eq_nil_iff.mpr (by simp [seedLog, h])]
    rfl

/-- A task is described once. -/
theorem described_described (held : Option Properties) :
    described (some (described held)) = described held := by
  apply Std.ExtTreeMap.ext_getElem?
  intro p
  simp only [described, Option.getD_some, getElem?_alter_const]
  split <;> rfl

/-- Seeding numbers describes the tasks of those numbers, however often a number comes up. -/
theorem properties?_run_seedLogs (s : Replica) (numbers : List Nat) (t : String) :
    (s.run (numbers.flatMap seedLog)).properties? t =
      if t ∈ numbers.map taskId then some (described (s.properties? t)) else s.properties? t := by
  induction numbers generalizing s with
  | nil => simp [run]
  | cons i numbers ih =>
    have hmem : t ∈ (i :: numbers).map taskId ↔ taskId i = t ∨ t ∈ numbers.map taskId := by
      rw [List.map_cons, List.mem_cons, eq_comm]
    rw [List.flatMap_cons, run_append, ih, properties?_run_seedLog]
    simp only [hmem]
    by_cases hi : taskId i = t
    · rw [if_pos hi, described_described, ite_self, if_pos (.inl hi)]
    · simp only [if_neg hi, or_iff_right hi]

/-- The seeded replica holds the even-numbered tasks, each with its description alone. -/
theorem properties?_seeded (n : Nat) (t : String) :
    (seeded n).properties? t =
      if t ∈ (evensBelow n).map taskId then some (described none) else none := by
  rw [seeded, properties?_run_seedLogs, properties?_empty]

/-- A numbered task is there exactly when its number is even and below the bound. -/
theorem holds_seeded_taskId (n i : Nat) :
    (seeded n).holds (taskId i) = decide (i < n ∧ i % 2 = 0) := by
  have hmem : taskId i ∈ (evensBelow n).map taskId ↔ i < n ∧ i % 2 = 0 := by
    simp only [List.mem_map, taskId_inj, exists_eq_right, mem_evensBelow]
  rw [holds_eq_isSome, properties?_seeded]
  by_cases h : i < n ∧ i % 2 = 0
  · rw [if_pos (hmem.mpr h), decide_eq_true h]
    rfl
  · rw [if_neg (fun hm => h (hmem.mp hm)), decide_eq_false h]
    rfl

end Replica

end TaskReplicas
