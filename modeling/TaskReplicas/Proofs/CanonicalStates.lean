import Mathlib.Data.List.Sort
import TaskReplicas.Proofs.ByteOrder
import TaskReplicas.Proofs.LogMeaning
import TaskReplicas.Stress.Check

/-!
# One state for each content

What can be asked of a replica is which tasks are there and which value a property has. Two replicas
in which all the answers agree have the same content (`Replica.SameContent`), however different the
logs that led to them, and then they are equal (`Replica.eq_iff_sameContent`): the maps of a replica
carry no history. The listing is in one order only, that of the bytes of the keys, on both levels
(`Replica.ascendingKeys_toList`), so the content determines it as well.
-/

set_option autoImplicit false

namespace TaskReplicas

variable {β : Type}

/-- Whether the key of one entry comes before that of another in the order of their bytes. -/
def KeyBefore (x y : String × β) : Prop := utf8Bytes x.1 < utf8Bytes y.1

/-- Entries in the order of the bytes of their keys, without repeats. -/
def AscendingKeys (entries : List (String × β)) : Prop := entries.Pairwise KeyBefore

instance : Std.Irrefl (KeyBefore (β := β)) := ⟨fun x => List.lt_irrefl (utf8Bytes x.1)⟩

instance : Std.Antisymm (KeyBefore (β := β)) :=
  ⟨fun _ _ before after => absurd after (List.lt_asymm before)⟩

/-- A map lists its entries by ascending keys. -/
theorem ascendingKeys_entries (m : Std.ExtTreeMap String β) : AscendingKeys m.toList := by
  unfold AscendingKeys KeyBefore
  simp only [← compare_eq_lt_iff_utf8Bytes]
  exact m.ordered_keys_toList

namespace Replica

/-- Whether two replicas hold the same tasks, and the same value of every property or none. -/
def SameContent (s s' : Replica) : Prop :=
  ∀ t, s.holds t = s'.holds t ∧ ∀ p, s.value? t p = s'.value? t p

/-- Replicas are equal when nothing tells them apart. -/
theorem eq_iff_sameContent {s s' : Replica} : s = s' ↔ s.SameContent s' := by
  constructor
  · rintro rfl t
    exact ⟨rfl, fun _ => rfl⟩
  · intro same
    apply ext_properties?
    intro t
    obtain ⟨held, values⟩ := same t
    rw [holds_eq_isSome, holds_eq_isSome] at held
    simp only [value?] at values
    cases hs : s.properties? t with
    | none => cases hs' : s'.properties? t with
      | none => rfl
      | some ps' => simp [hs, hs'] at held
    | some ps => cases hs' : s'.properties? t with
      | none => simp [hs, hs'] at held
      | some ps' =>
        simp only [hs, hs', Option.bind_some] at values
        rw [Std.ExtTreeMap.ext_getElem? values]

/-! ## The listing -/

/-- A replica lists its tasks by ascending names. -/
theorem ascendingKeys_toList (s : Replica) : AscendingKeys s.toList := by
  unfold AscendingKeys toList
  rw [List.pairwise_map]
  exact ascendingKeys_entries s.tasks

/-- A replica lists a task with the listing of the properties that it holds for the task. -/
theorem mem_toList_iff_properties? {s : Replica} {t : String} {ps : List (String × String)} :
    (t, ps) ∈ s.toList ↔ ∃ held, s.properties? t = some held ∧ held.toList = ps := by
  simp [toList, properties?, Std.ExtTreeMap.mem_toList_iff_getElem?_eq_some]

/-- The entry of a task has its values, and there is one way only to list them. -/
theorem mem_toList_iff {s : Replica} {t : String} {ps : List (String × String)} :
    (t, ps) ∈ s.toList ↔
      s.holds t = true ∧ AscendingKeys ps ∧ ∀ p v, (p, v) ∈ ps ↔ s.value? t p = some v := by
  rw [mem_toList_iff_properties?, holds_eq_isSome]
  constructor
  · rintro ⟨held, here, rfl⟩
    refine ⟨by simp [here], ascendingKeys_entries held, fun p v => ?_⟩
    simp [value?, here, Std.ExtTreeMap.mem_toList_iff_getElem?_eq_some]
  · rintro ⟨here, ascending, values⟩
    obtain ⟨held, here⟩ := Option.isSome_iff_exists.mp here
    refine ⟨held, here, ?_⟩
    apply (ascendingKeys_entries held).eq_of_mem_iff ascending
    rintro ⟨p, v⟩
    simp [values, value?, here, Std.ExtTreeMap.mem_toList_iff_getElem?_eq_some]

/-- The listing tells as much of a replica as the replica itself. -/
theorem toList_inj {s s' : Replica} : s.toList = s'.toList ↔ s = s' := by
  constructor
  · intro listing
    have entries : s.tasks.toList = s'.tasks.toList := by
      refine (List.map_inj_right ?_).mp listing
      rintro ⟨t, ps⟩ ⟨t', ps'⟩ entry
      obtain ⟨task, properties⟩ := Prod.mk.inj entry
      rw [task, Std.ExtTreeMap.toList_inj.mp properties]
    cases s
    cases s'
    exact congrArg mk (Std.ExtTreeMap.toList_inj.mp entries)
  · rintro rfl
    rfl

/-! ## Tasks without properties -/

/-- A create gives no property a value and takes none away. -/
theorem value?_apply_create (s : Replica) (t u p : String) :
    (s.apply (.create t)).value? u p = s.value? u p := by
  rw [value?_apply]
  split
  · rfl
  · next h =>
    have missing : s.holds u = false := by simpa using h
    rw [value?_of_missing p missing]

/-- A create gives no property a value, and is told from doing nothing all the same unless the task
is there. -/
theorem apply_create_eq_self_iff (s : Replica) (t : String) :
    s.apply (.create t) = s ↔ s.holds t = true := by
  constructor
  · intro same
    rw [← same, holds_apply_iff]
    exact .inl rfl
  · intro here
    rw [eq_iff_sameContent]
    intro u
    refine ⟨?_, s.value?_apply_create t u⟩
    rw [Bool.eq_iff_iff, holds_apply_iff]
    constructor
    · rintro (created | ⟨-, there⟩)
      · cases created
        exact here
      · exact there
    · exact fun there => .inr ⟨by simp, there⟩

end Replica

/-! ## Runs -/

/-- Whatever replicas two logs start from and whatever they do, the replicas they lead to are listed
in the order of the bytes of their keys, each task with its values and nothing else. They are equal,
and so are their listings, exactly when they have the same content, which is also what a check of
two operations there finds out. A task without properties counts: it gives no property a value, but
a replica with it is another than the one without. -/
theorem states_canonical (start start' : Replica) (log log' : List Operation) :
    let s := start.run log
    let s' := start'.run log'
    AscendingKeys s.toList ∧
      (∀ t ps, (t, ps) ∈ s.toList ↔
        s.holds t = true ∧ AscendingKeys ps ∧ ∀ p v, (p, v) ∈ ps ↔ s.value? t p = some v) ∧
      ((s == s') = true ↔ s.SameContent s') ∧
      (s.toList = s'.toList ↔ s.SameContent s') ∧
      (∀ a b, s.diverges a b = false ↔
        (s.firstThenRest a b).SameContent (s.secondThenRest a b)) ∧
      ∀ t, (∀ u p, (s.apply (.create t)).value? u p = s.value? u p) ∧
        (s.apply (.create t) = s ↔ s.holds t = true) := by
  intro s s'
  refine ⟨s.ascendingKeys_toList, fun t ps => s.mem_toList_iff, ?_, ?_, fun a b => ?_, fun t => ?_⟩
  · rw [beq_iff_eq, Replica.eq_iff_sameContent]
  · rw [Replica.toList_inj, Replica.eq_iff_sameContent]
  · rw [← Replica.eq_iff_sameContent, Replica.diverges, decide_eq_false_iff_not, not_not]
  · exact ⟨s.value?_apply_create t, s.apply_create_eq_self_iff t⟩

/-- A character with four bytes comes after all those with three. -/
example :
    (Replica.empty.run [.create "😀", .create "\uFFFF", .create "task"]).toList =
      [("task", []), ("\uFFFF", []), ("😀", [])] := by
  decide

end TaskReplicas
