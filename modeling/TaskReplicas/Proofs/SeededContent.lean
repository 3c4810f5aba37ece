import TaskReplicas.Proofs.CanonicalStates
import TaskReplicas.Proofs.SeededTasks

/-!
# The listing of the seeded replica

The seeded replica lists one entry for each even number below its bound, in some order
(`Replica.toList_seeded_perm`): the task of the number, with its description. Different numbers have
different names, so the entries are as many as the numbers, which are half of those below the bound
(`length_evensBelow`), and a greater bound only adds entries.
-/

set_option autoImplicit false

namespace TaskReplicas

/-- What the seeded replica lists for a number. -/
def seededEntry (i : Nat) : String × List (String × String) :=
  (taskId i, [("description", "seed")])

/-- A task that is described has one property. -/
theorem toList_described : (described none).toList = [("description", "seed")] := by
  decide

/-- One number further there is one more even number, or none. -/
theorem evensBelow_succ (n : Nat) :
    evensBelow (n + 1) = if n % 2 = 0 then evensBelow n ++ [n] else evensBelow n := by
  unfold evensBelow
  rw [List.range_succ, List.filter_append]
  by_cases even : n % 2 = 0 <;> simp [even]

/-- Every other number is even, and zero is. -/
theorem length_evensBelow (n : Nat) : (evensBelow n).length = (n + 1) / 2 := by
  induction n with
  | zero => rfl
  | succ n ih =>
    rw [evensBelow_succ]
    by_cases even : n % 2 = 0
    · rw [if_pos even, List.length_append, ih, List.length_singleton]
      omega
    · rw [if_neg even, ih]
      omega

namespace Replica

/-- The seeded replica lists the entries of the even numbers and no others. -/
theorem mem_toList_seeded {n : Nat} {entry : String × List (String × String)} :
    entry ∈ (seeded n).toList ↔ ∃ i ∈ evensBelow n, seededEntry i = entry := by
  obtain ⟨t, ps⟩ := entry
  rw [mem_toList_iff_properties?, properties?_seeded]
  constructor
  · rintro ⟨held, there, rfl⟩
    split at there
    · next named =>
      obtain ⟨i, below, rfl⟩ := List.mem_map.mp named
      cases there
      exact ⟨i, below, by rw [toList_described, seededEntry]⟩
    · cases there
  · rintro ⟨i, below, same⟩
    cases same
    exact ⟨described none, if_pos (List.mem_map_of_mem below), toList_described⟩

/-- The seeded replica lists the entry of each even number once. -/
theorem toList_seeded_perm (n : Nat) :
    (seeded n).toList.Perm ((evensBelow n).map seededEntry) := by
  have entries : (seeded n).toList.Nodup := by
    refine (seeded n).ascendingKeys_toList.imp ?_
    rintro entry _ before rfl
    exact List.lt_irrefl _ before
  have numbers : ((evensBelow n).map seededEntry).Nodup := by
    refine List.Nodup.map ?_ (List.nodup_range.filter _)
    intro i j same
    exact taskId_inj.mp (congrArg Prod.fst same)
  rw [List.perm_ext_iff_of_nodup entries numbers]
  intro entry
  rw [mem_toList_seeded, List.mem_map]

/-- Every other task is there at the start. -/
theorem size_seeded (n : Nat) : (seeded n).tasks.size = (n + 1) / 2 := by
  have listed : (seeded n).toList.length = (seeded n).tasks.size := by
    unfold toList
    rw [List.length_map, Std.ExtTreeMap.length_toList]
  rw [← listed, (toList_seeded_perm n).length_eq, List.length_map, length_evensBelow]

/-- **What the seeded replica holds.** The even numbers below the bound and no others name its
tasks, which are half of the bound, rounded up. Each has a description and nothing else. The task of
an odd number, or of one that is not below the bound, is not there, and whatever is listed for a
bound is listed for every greater one. -/
theorem seeded_contents (n : Nat) :
    (∀ t ps, (t, ps) ∈ (seeded n).toList ↔
      (∃ i, (i < n ∧ i % 2 = 0) ∧ taskId i = t) ∧ ps = [("description", "seed")]) ∧
    (seeded n).tasks.size = (n + 1) / 2 ∧
    (∀ i, i % 2 = 1 ∨ n ≤ i → (seeded n).holds (taskId i) = false) ∧
    ∀ m, n ≤ m → ∀ entry ∈ (seeded n).toList, entry ∈ (seeded m).toList := by
  refine ⟨fun t ps => ?_, size_seeded n, fun i away => ?_, fun m wider entry listed => ?_⟩
  · simp only [mem_toList_seeded, mem_evensBelow]
    constructor
    · rintro ⟨i, below, same⟩
      cases same
      exact ⟨⟨i, below, rfl⟩, rfl⟩
    · rintro ⟨⟨i, below, rfl⟩, rfl⟩
      exact ⟨i, below, rfl⟩
  · rw [holds_seeded_taskId, decide_eq_false_iff_not]
    omega
  · simp only [mem_toList_seeded, mem_evensBelow] at listed ⊢
    obtain ⟨i, ⟨below, even⟩, same⟩ := listed
    exact ⟨i, ⟨by omega, even⟩, same⟩

/-- With a bound behind the last padded number. -/
theorem seeded_contents_beyond_padding :
    ("task-10000", [("description", "seed")]) ∈ (seeded 10001).toList ∧
      (seeded 10001).tasks.size = 5001 ∧ (seeded 10001).holds "task-9999" = false ∧
      (seeded 10001).holds "task-10002" = false ∧
      ("task-10000", [("description", "seed")]) ∈ (seeded 20000).toList := by
  obtain ⟨listed, size, missing, nested⟩ := seeded_contents 10001
  have here := (listed "task-10000" [("description", "seed")]).mpr
    ⟨⟨10000, by decide, by decide⟩, rfl⟩
  exact ⟨here, size, missing 9999 (by decide), missing 10002 (by decide),
    nested 20000 (by decide) _ here⟩

end Replica

end TaskReplicas
