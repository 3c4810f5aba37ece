import TaskReplicas.Transform.Rule

/-!
# The rulings on two operations

`Ruling` is the table of conflicts: every pair of operations that can meet, with what becomes of it
and the rule that says so. The decision on a pair is the ruling on it (`ruling_resolve`), and there
is no other ruling on it (`Ruling.resolve_eq`), so what is known of a decision is read off the table
by cases.
-/

set_option autoImplicit false

namespace TaskReplicas

/-! ## The order of timestamps -/

/-- Timestamps of which neither is the earlier one are equal. -/
theorem timestamp_eq_of_not_lt {i j : Timestamp} (hij : ¬ i < j) (hji : ¬ j < i) : i = j := by
  rw [Int64.lt_iff_toInt_lt] at hij hji
  exact Int64.toInt_inj.mp (by omega)

/-- Of two times at most one is the earlier. -/
theorem timestamp_lt_asymm {i j : Timestamp} (h : i < j) : ¬ j < i := by
  rw [Int64.lt_iff_toInt_lt] at h ⊢
  omega

/-- What is earlier than an earlier time is earlier. -/
theorem timestamp_lt_trans {i j k : Timestamp} (hij : i < j) (hjk : j < k) : i < k := by
  rw [Int64.lt_iff_toInt_lt] at hij hjk ⊢
  exact Int.lt_trans hij hjk

/-! ## The table -/

/-- What becomes of two operations that meet, and by which rule. -/
inductive Ruling : Operation → Operation → Resolution → Rule → Prop
  | differentTasks {a b : Operation} (h : a.task ≠ b.task) : Ruling a b .keepBoth .differentTasks
  | creates (t : String) : Ruling (.create t) (.create t) .dropBoth .sameKind
  | deletes (t : String) : Ruling (.delete t) (.delete t) .dropBoth .sameKind
  | createDelete (t : String) : Ruling (.create t) (.delete t) .keepFirst .createOverDelete
  | deleteCreate (t : String) : Ruling (.delete t) (.create t) .keepSecond .createOverDelete
  | createUpdate (t p : String) (v : Option String) (i : Timestamp) :
    Ruling (.create t) (.update t p v i) .keepSecond .updateOverCreate
  | updateCreate (t p : String) (v : Option String) (i : Timestamp) :
    Ruling (.update t p v i) (.create t) .keepFirst .updateOverCreate
  | deleteUpdate (t p : String) (v : Option String) (i : Timestamp) :
    Ruling (.delete t) (.update t p v i) .keepFirst .deleteOverUpdate
  | updateDelete (t p : String) (v : Option String) (i : Timestamp) :
    Ruling (.update t p v i) (.delete t) .keepSecond .deleteOverUpdate
  | differentProperties (t : String) {p q : String} (v w : Option String) (i j : Timestamp)
    (h : p ≠ q) : Ruling (.update t p v i) (.update t q w j) .keepBoth .differentProperties
  | sameValue (t p : String) (v : Option String) (i j : Timestamp) :
    Ruling (.update t p v i) (.update t p v j) .dropBoth .sameValue
  | laterSecond (t p : String) {v w : Option String} {i j : Timestamp} (hv : v ≠ w) (h : i < j) :
    Ruling (.update t p v i) (.update t p w j) .keepSecond .laterTimestamp
  | laterFirst (t p : String) {v w : Option String} {i j : Timestamp} (hv : v ≠ w) (h : j < i) :
    Ruling (.update t p v i) (.update t p w j) .keepFirst .laterTimestamp
  | tie (t p : String) {v w : Option String} (i : Timestamp) (hv : v ≠ w) :
    Ruling (.update t p v i) (.update t p w i) .keepFirst .timestampTie

/-- Two updates of a property are decided by the table. -/
theorem ruling_resolveValues (t p : String) (v w : Option String) (i j : Timestamp) :
    Ruling (.update t p v i) (.update t p w j) (resolveValues v w i j).1
      (resolveValues v w i j).2 := by
  unfold resolveValues
  by_cases hv : v = w
  · subst hv
    rw [if_pos rfl]
    exact .sameValue t p v i j
  · rw [if_neg hv]
    by_cases hi : i < j
    · rw [if_pos hi]
      exact .laterSecond t p hv hi
    · rw [if_neg hi]
      by_cases hj : j < i
      · rw [if_pos hj]
        exact .laterFirst t p hv hj
      · rw [if_neg hj]
        cases timestamp_eq_of_not_lt hi hj
        exact .tie t p i hv

/-- Every pair of operations is decided by the ruling on it. -/
theorem ruling_resolve (a b : Operation) : Ruling a b (resolve a b).1 (resolve a b).2 := by
  unfold resolve
  by_cases ht : a.task = b.task
  · rw [if_pos ht]
    cases a with
    | create t =>
      cases b with
      | create u => cases ht; exact .creates t
      | delete u => cases ht; exact .createDelete t
      | update u q w j => cases ht; exact .createUpdate t q w j
    | delete t =>
      cases b with
      | create u => cases ht; exact .deleteCreate t
      | delete u => cases ht; exact .deletes t
      | update u q w j => cases ht; exact .deleteUpdate t q w j
    | update t p v i =>
      cases b with
      | create u => cases ht; exact .updateCreate t p v i
      | delete u => cases ht; exact .updateDelete t p v i
      | update u q w j =>
        cases ht
        simp only [resolveOnTask]
        by_cases hp : p = q
        · subst hp
          rw [if_pos rfl]
          exact ruling_resolveValues t p v w i j
        · rw [if_neg hp]
          exact .differentProperties t v w i j hp
  · rw [if_neg ht]
    exact .differentTasks ht

/-- The ruling on a pair is the only one. -/
theorem Ruling.resolve_eq {a b : Operation} {kept : Resolution} {rule : Rule}
    (h : Ruling a b kept rule) : resolve a b = (kept, rule) := by
  cases h with
  | differentTasks h => rw [resolve, if_neg h]
  | differentProperties t v w i j h => simp [resolve, Operation.task, resolveOnTask, h]
  | sameValue t p v i j => simp [resolve, Operation.task, resolveOnTask, resolveValues]
  | laterSecond t p hv h => simp [resolve, Operation.task, resolveOnTask, resolveValues, hv, h]
  | laterFirst t p hv h =>
    simp [resolve, Operation.task, resolveOnTask, resolveValues, hv, h, timestamp_lt_asymm h]
  | tie t p i hv =>
    have still : ¬ i < i := fun h => timestamp_lt_asymm h h
    simp [resolve, Operation.task, resolveOnTask, resolveValues, hv, still]
  | _ => exact if_pos rfl

end TaskReplicas
