import TaskReplicas.Proofs.Convergence
import TaskReplicas.Proofs.LogMeaning

/-!
# When both of two operations are dropped

Two operations make each other needless when either is as good as the other. What an operation does
to replicas tells which operation it is, but for its time (`untimed_eq_of_apply_eq`): a create is
the only operation that brings its task into an empty replica, a delete the only one that takes its
task away, and an update the only one that gives its property the value of the update where the
property had another one. Operations that differ in their time alone give way to each other
(`yieldsTo_of_untimed_eq`), and these are the pairs of which nothing is left.
-/

set_option autoImplicit false

namespace TaskReplicas

/-- Nothing is left of two operations just in case each gives way to the other. -/
theorem transform_eq_none_iff (a b : Operation) :
    transform a b = (none, none) ↔ a.YieldsTo b ∧ b.YieldsTo a := by
  constructor
  · intro h
    have first : a.YieldsTo b := yieldsTo_of_transform_fst (by rw [h])
    have untied : ¬ a.Tied b := by
      intro ht
      rw [transform_of_tied ht] at h
      cases h
    refine ⟨first, yieldsTo_of_transform_fst ?_⟩
    rw [transform_swap untied, h]
    rfl
  · rintro ⟨hab, hba⟩
    have untied : ¬ a.Tied b := by
      intro ht
      have gone := transform_fst_of_yieldsTo hab
      rw [transform_of_tied ht] at gone
      cases gone
    apply Prod.ext
    · exact transform_fst_of_yieldsTo hab
    · rw [transform_snd untied, if_pos hba]

/-- Operations that differ in their time alone give way to each other. -/
theorem yieldsTo_of_untimed_eq {a b : Operation} (h : a.untimed = b.untimed) : a.YieldsTo b := by
  cases a with
  | create t =>
    cases b with
    | create u => cases h; exact .create t
    | delete u => cases h
    | update u q w j => cases h
  | delete t =>
    cases b with
    | create u => cases h
    | delete u => cases h; exact .delete t
    | update u q w j => cases h
  | update t p v i =>
    cases b with
    | create u => cases h
    | delete u => cases h
    | update u q w j => cases h; exact .sameValue t p v i j

/-- What gives a property a value is an update of it. -/
theorem Operation.gives?_eq_some {op : Operation} {t p : String} {v : Option String}
    (h : op.gives? t p = some v) : ∃ i, op = .update t p v i := by
  cases op with
  | create u => cases h
  | delete u => cases h
  | update u q w i =>
    simp only [Operation.gives?] at h
    split at h
    · next same =>
      obtain ⟨rfl, rfl⟩ := same
      cases h
      exact ⟨i, rfl⟩
    · cases h

namespace Replica

variable {b : Operation} {t p : String} {v : Option String} {i : Timestamp}

/-! ## What an operation is known by -/

/-- After a create its task is there. -/
theorem holds_apply_create (s : Replica) (t : String) : (s.apply (.create t)).holds t = true := by
  rw [holds_apply_iff]
  exact .inl rfl

/-- What does to every replica what a create does is that create. -/
theorem eq_create_of_apply_eq (h : ∀ s : Replica, s.apply (.create t) = s.apply b) :
    b = .create t := by
  have made := empty.holds_apply_create t
  have bare : empty.holds t = false := by
    rw [holds_eq_isSome, properties?_empty]
    rfl
  rw [h, holds_apply_iff, bare] at made
  simpa using made

/-- What does to every replica what a delete does is that delete. -/
theorem eq_delete_of_apply_eq (h : ∀ s : Replica, s.apply (.delete t) = s.apply b) :
    b = .delete t := by
  have there := empty.holds_apply_create t
  have gone : ¬ ((empty.apply (.create t)).apply (.delete t)).holds t = true := by
    rw [holds_apply_iff]
    simp
  rw [h, holds_apply_iff, there] at gone
  by_contra kept
  exact gone (.inr ⟨kept, rfl⟩)

/-- A task can be there while one of its properties is not what it is asked to be. -/
theorem exists_value?_ne (t p : String) (v : Option String) :
    ∃ s : Replica, s.holds t = true ∧ s.value? t p ≠ v := by
  have there := empty.holds_apply_create t
  cases v with
  | none =>
    refine ⟨(empty.apply (.create t)).apply (.update t p (some "") 0), ?_, ?_⟩
    · rw [holds_apply_update, there]
    · rw [value?_apply_update p (some "") 0 there]
      simp
  | some x =>
    refine ⟨empty.apply (.create t), there, ?_⟩
    rw [value?_apply, holds_eq_isSome, properties?_empty]
    simp

/-- What does to every replica what an update does is that update, made at some time. -/
theorem eq_update_of_apply_eq (h : ∀ s : Replica, s.apply (.update t p v i) = s.apply b) :
    ∃ j, b = .update t p v j := by
  obtain ⟨s, there, differs⟩ := exists_value?_ne t p v
  have given : (s.apply (.update t p v i)).value? t p = v := value?_apply_update p v i there
  have kept : b ≠ .delete t := by
    rintro rfl
    cases eq_delete_of_apply_eq fun s => (h s).symm
  rw [h, value?_apply, if_pos ⟨kept, there⟩] at given
  cases hb : b.gives? t p with
  | none =>
    rw [hb] at given
    exact absurd given differs
  | some w =>
    rw [hb] at given
    obtain ⟨j, rfl⟩ := Operation.gives?_eq_some hb
    cases given
    exact ⟨j, rfl⟩

/-- Operations that do the same to every replica differ in their time at most. -/
theorem untimed_eq_of_apply_eq {a b : Operation} (h : ∀ s : Replica, s.apply a = s.apply b) :
    a.untimed = b.untimed := by
  cases a with
  | create t => rw [eq_create_of_apply_eq h]
  | delete t => rw [eq_delete_of_apply_eq h]
  | update t p v i =>
    obtain ⟨j, rfl⟩ := eq_update_of_apply_eq h
    rfl

end Replica

/-- **Both operations are dropped exactly when they do the same.** Nothing is left of two operations
when every replica is brought to the same state by the one as by the other, and only then; so
nothing is ever left of an operation that meets itself. -/
theorem both_dropped_iff_same_effect (a b : Operation) :
    (transform a b = (none, none) ↔ ∀ s : Replica, s.apply a = s.apply b) ∧
      transform a a = (none, none) := by
  constructor
  · rw [transform_eq_none_iff]
    constructor
    · rintro ⟨hab, hba⟩ s
      exact s.apply_eq_of_yieldsTo hab hba
    · intro h
      have same := Replica.untimed_eq_of_apply_eq h
      exact ⟨yieldsTo_of_untimed_eq same, yieldsTo_of_untimed_eq same.symm⟩
  · have self : a.YieldsTo a := yieldsTo_of_untimed_eq rfl
    exact (transform_eq_none_iff a a).mpr ⟨self, self⟩

end TaskReplicas
