import TaskReplicas.Proofs.Convergence
import TaskReplicas.Proofs.LogMeaning
import TaskReplicas.Proofs.Rulings

/-!
# Operations that leave each other alone

Both of two operations survive when they are about different tasks or update different properties of
one (`commutes_iff_apart`). Then every property of every task is ignored by one of the two, whatever
the replica (`Operation.Apart.ignored`). Where the first is ignored the second alone decides what is
found there in the end, and the other way round; so the replica that took both is a merge of the
replicas that took one each, and neither effect is lost (`Replica.merges_of_apart`).
-/

set_option autoImplicit false

namespace TaskReplicas

/-- Operations on different tasks, or updates of different properties of one task. -/
inductive Operation.Apart : Operation → Operation → Prop
  | tasks {a b : Operation} (h : a.task ≠ b.task) : Apart a b
  | properties (t : String) {p q : String} (v w : Option String) (i j : Timestamp) (h : p ≠ q) :
    Apart (.update t p v i) (.update t q w j)

/-- What two sides make of a common base is merged: the change of either side is in it, and where
neither changed anything it is as before. -/
structure Merges {α : Type} (base left right merged : α) : Prop where
  takesLeft : left ≠ base → merged = left
  takesRight : right ≠ base → merged = right
  keepsBase : left = base → right = base → merged = base

/-- Where the right side changed nothing, the left one is the merge. -/
theorem Merges.of_right_eq {α : Type} {base left right merged : α} (h : right = base)
    (hm : merged = left) : Merges base left right merged := by
  subst h hm
  constructor
  · intro _
    rfl
  · intro changed
    exact absurd rfl changed
  · intro same _
    exact same

/-- Where the left side changed nothing, the right one is the merge. -/
theorem Merges.of_left_eq {α : Type} {base left right merged : α} (h : left = base)
    (hm : merged = right) : Merges base left right merged := by
  subst h hm
  constructor
  · intro changed
    exact absurd rfl changed
  · intro _
    rfl
  · intro _ same
    exact same

/-! ## Which operations both survive -/

/-- Two operations commute just in case both survive as they are. -/
theorem commutes_iff_transform (a b : Operation) :
    commutes a b = true ↔ transform a b = (some a, some b) := by
  unfold commutes transform
  cases (resolve a b).1 <;> simp [Resolution.outputs]

/-- Being apart has no sides. -/
theorem Operation.Apart.symm {a b : Operation} (h : a.Apart b) : b.Apart a := by
  cases h with
  | tasks h => exact .tasks h.symm
  | properties t v w i j h => exact .properties t w v j i h.symm

/-- Operations that are apart commute. -/
theorem commutes_of_apart {a b : Operation} (h : a.Apart b) : commutes a b = true := by
  cases h with
  | tasks h => simp [commutes, resolve, h]
  | properties t v w i j h => simp [commutes, resolve, resolveOnTask, h]

/-- On one task both operations survive only as updates of different properties. -/
theorem apart_of_commutes {a b : Operation} (h : commutes a b = true) : a.Apart b := by
  unfold commutes at h
  rw [decide_eq_true_iff] at h
  have ruling := ruling_resolve a b
  rw [h] at ruling
  generalize (resolve a b).2 = rule at ruling
  cases ruling with
  | differentTasks ht => exact .tasks ht
  | differentProperties t v w i j hp => exact .properties t v w i j hp

/-- Operations commute just in case they are apart. -/
theorem commutes_iff_apart (a b : Operation) : commutes a b = true ↔ a.Apart b :=
  ⟨apart_of_commutes, commutes_of_apart⟩

/-- Commuting has no sides. -/
theorem commutes_comm (a b : Operation) : commutes a b = commutes b a := by
  rw [Bool.eq_iff_iff, commutes_iff_apart, commutes_iff_apart]
  exact ⟨Operation.Apart.symm, Operation.Apart.symm⟩

/-! ## What the replica holds that took both -/

/-- One of two operations that leave each other alone makes no difference to a property, in any
replica. -/
theorem Operation.Apart.ignored {a b : Operation} (h : a.Apart b) (t p : String) :
    (∀ s : Replica, s.Ignores t p a) ∨ ∀ s : Replica, s.Ignores t p b := by
  cases h with
  | tasks h =>
    by_cases ha : a.task = t
    · right
      intro s
      exact .otherTask fun hb => h (ha.trans hb.symm)
    · left
      intro s
      exact .otherTask ha
  | @properties u q r v w i j h =>
    by_cases hu : u = t
    · subst hu
      by_cases hq : q = p
      · right
        intro s
        exact .otherProperty w j fun hr => h (hq.trans hr.symm)
      · left
        intro s
        exact .otherProperty v i hq
    · left
      intro s
      exact .otherTask hu

namespace Replica

variable {a b : Operation}

/-- Operations that are apart can be applied in either order. -/
theorem apply_comm_of_apart (s : Replica) (h : a.Apart b) :
    (s.apply a).apply b = (s.apply b).apply a := by
  cases h with
  | tasks h => exact s.apply_comm_of_task_ne h
  | properties t v w i j h => exact s.apply_update_comm t h v w i j

/-- Operations that are apart are merged in what they say of any task, and of any property of it. -/
theorem merges_of_apart (s : Replica) (h : a.Apart b) (t p : String) :
    Merges (s.holds t) ((s.apply a).holds t) ((s.apply b).holds t)
        (((s.apply a).apply b).holds t) ∧
      Merges (s.value? t p) ((s.apply a).value? t p) ((s.apply b).value? t p)
        (((s.apply a).apply b).value? t p) := by
  rcases h.ignored t p with ha | hb
  · obtain ⟨there, value⟩ := (ha s).agreeOn
    obtain ⟨there', value'⟩ := (ha (s.apply b)).agreeOn
    rw [s.apply_comm_of_apart h]
    exact ⟨.of_left_eq there there', .of_left_eq value value'⟩
  · obtain ⟨there, value⟩ := (hb s).agreeOn
    obtain ⟨there', value'⟩ := (hb (s.apply a)).agreeOn
    exact ⟨.of_right_eq there there', .of_right_eq value value'⟩

end Replica

/-- **Operations that commute may be left as they are.** Two operations commute exactly when a
transform leaves both unchanged, in whichever order they are given. From every replica, whether they
fit it or not, they then lead to the same replica in both orders, and that replica merges what each
makes of the first one: in the presence of every task, and in the value of every property. -/
theorem commutes_sound (a b : Operation) :
    (commutes a b = true ↔ transform a b = (some a, some b)) ∧ commutes a b = commutes b a ∧
      (commutes a b = true → ∀ s : Replica,
        (s.apply a).apply b = (s.apply b).apply a ∧ ∀ t,
          Merges (s.holds t) ((s.apply a).holds t) ((s.apply b).holds t)
            (((s.apply a).apply b).holds t) ∧
          ∀ p, Merges (s.value? t p) ((s.apply a).value? t p) ((s.apply b).value? t p)
            (((s.apply a).apply b).value? t p)) := by
  refine ⟨commutes_iff_transform a b, commutes_comm a b, ?_⟩
  intro h s
  rw [commutes_iff_apart] at h
  refine ⟨s.apply_comm_of_apart h, fun t => ⟨?_, fun p => ?_⟩⟩
  · exact (s.merges_of_apart h t "").1
  · exact (s.merges_of_apart h t p).2

/-- Two clears of different properties, one of which is not set. -/
theorem commutes_sound_cleared :
    let s := (Replica.empty.apply (.create "abc")).apply (.update "abc" "due" (some "monday") 5)
    let a := Operation.update "abc" "due" none 7
    let b := Operation.update "abc" "status" none 7
    commutes a b = true ∧ (s.apply a).apply b = (s.apply b).apply a ∧
      (s.apply a).value? "abc" "due" ≠ s.value? "abc" "due" ∧
      ((s.apply a).apply b).value? "abc" "due" = (s.apply a).value? "abc" "due" := by
  intro s a b
  have h : commutes a b = true := by decide
  obtain ⟨same, merged⟩ := (commutes_sound a b).2.2 h s
  have changed : (s.apply a).value? "abc" "due" ≠ s.value? "abc" "due" := by decide
  exact ⟨h, same, changed, ((merged "abc").2 "due").takesLeft changed⟩

end TaskReplicas
