import TaskReplicas.Replica.Basic

/-!
# What one operation makes of the effect of another

Two operations on different tasks leave each other's effect alone. Of two on one task, the later
often absorbs the earlier: a delete absorbs whatever came before it, an update absorbs an update of
its property, and an operation that does not fit changes nothing at all.

A log is read off one task at a time: `Replica.properties?_run` says that a task sees only the
operations on it, and `Replica.run_eq_run_iff` that two logs about one task do the same exactly when
they act alike on what that task holds. The laws below are instances of it. The two with a condition
are exact: `apply_create_update_eq_iff` says when an update hides that its task was created just
before it, and `apply_delete_create_eq_iff` when a create hides that its task was deleted just
before it.
-/

set_option autoImplicit false

namespace TaskReplicas

namespace Operation

/-- The task that a create is about. -/
@[simp]
theorem task_create (t : String) : (create t).task = t := rfl

/-- The task that a delete is about. -/
@[simp]
theorem task_delete (t : String) : (delete t).task = t := rfl

/-- The task that an update is about. -/
@[simp]
theorem task_update (t p : String) (v : Option String) (i : Timestamp) :
    (update t p v i).task = t := rfl

/-- What a log about one task makes of what that task held. -/
def actAll (held : Option Properties) (log : List Operation) : Option Properties :=
  log.foldl (fun held op => op.act held) held

end Operation

namespace Replica

open Operation (actAll)

/-! ## Logs, seen from one task -/

/-- A log is applied part by part. -/
theorem run_append (s : Replica) (A B : List Operation) :
    s.run (A ++ B) = (s.run A).run B := List.foldl_append

/-- A task sees the operations on it, in their order, and no others. -/
theorem properties?_run (s : Replica) (log : List Operation) (t : String) :
    (s.run log).properties? t = actAll (s.properties? t) (log.filter (·.task = t)) := by
  induction log generalizing s with
  | nil => rfl
  | cons op log ih =>
    show ((s.apply op).run log).properties? t = _
    rw [ih, properties?_apply]
    by_cases h : op.task = t
    · rw [if_pos h, List.filter_cons_of_pos (by simpa using h)]
      rfl
    · rw [if_neg h, List.filter_cons_of_neg (by simpa using h)]

/-- Two logs about one task do the same exactly when they act alike on what it holds. -/
theorem run_eq_run_iff (s : Replica) {L M : List Operation} {t : String}
    (hL : ∀ op ∈ L, op.task = t) (hM : ∀ op ∈ M, op.task = t) :
    s.run L = s.run M ↔ actAll (s.properties? t) L = actAll (s.properties? t) M := by
  have here : ∀ {N : List Operation}, (∀ op ∈ N, op.task = t) →
      N.filter (·.task = t) = N := fun hN =>
    List.filter_eq_self.mpr fun op hop => by simpa using hN op hop
  have away : ∀ {N : List Operation} {u : String}, (∀ op ∈ N, op.task = t) → u ≠ t →
      N.filter (·.task = u) = [] := fun hN hu =>
    List.filter_eq_nil_iff.mpr fun op hop => by simpa [hN op hop] using hu.symm
  constructor
  · intro h
    have hp := congrArg (fun r : Replica => r.properties? t) h
    simpa only [properties?_run, here hL, here hM] using hp
  · intro h
    apply ext_properties?
    intro u
    rw [properties?_run, properties?_run]
    by_cases hu : u = t
    · rw [hu, here hL, here hM, h]
    · rw [away hL hu, away hM hu]

/-- Whether the task of an operation is there once the operation has been applied. -/
theorem holds_apply_self (s : Replica) (op : Operation) :
    (s.apply op).holds op.task = (op.act (s.properties? op.task)).isSome := by
  rw [holds_eq_isSome, properties?_apply, if_pos rfl]

/-- An update neither brings its task into being nor removes it. -/
theorem holds_apply_update (s : Replica) (t p : String) (v : Option String) (i : Timestamp) :
    (s.apply (.update t p v i)).holds t = s.holds t := by
  rw [s.holds_eq_isSome, ← Option.isSome_map]
  exact s.holds_apply_self (.update t p v i)

/-- Whether a task is there does not depend on operations on other tasks. -/
theorem holds_apply_of_ne (s : Replica) {op : Operation} {t : String} (h : op.task ≠ t) :
    (s.apply op).holds t = s.holds t := by
  rw [holds_eq_isSome, holds_eq_isSome, properties?_apply, if_neg h]

/-- The value of a property after one property of the same task was set or cleared. -/
theorem getElem?_alter_const (held : Properties) (p q : String) (v : Option String) :
    (held.alter p fun _ => v)[q]? = if p = q then v else held[q]? := by
  simp only [Std.ExtTreeMap.getElem?_alter, Std.compare_eq_iff_eq]

/-- After an update of a task that is there, the property has the value of the update. -/
theorem value?_apply_update {s : Replica} {t : String} (p : String) (v : Option String)
    (i : Timestamp) (h : s.holds t = true) : (s.apply (.update t p v i)).value? t p = v := by
  rw [holds_eq_isSome] at h
  obtain ⟨held, hs⟩ := Option.isSome_iff_exists.mp h
  rw [value?, properties?_apply, if_pos (Operation.task_update t p v i), hs]
  show (held.alter p fun _ => v)[p]? = v
  rw [getElem?_alter_const, if_pos rfl]

/-- Properties of which none has a value are none at all. -/
theorem eq_empty_of_forall_getElem? {held : Properties} (h : ∀ p : String, held[p]? = none) :
    held = ∅ := by
  apply Std.ExtTreeMap.ext_getElem?
  intro p
  rw [h p, Std.ExtTreeMap.getElem?_empty]

/-! ## Operations on different tasks -/

/-- Operations on different tasks may be applied in either order. -/
theorem apply_comm_of_task_ne (s : Replica) {a b : Operation} (h : a.task ≠ b.task) :
    (s.apply a).apply b = (s.apply b).apply a := by
  apply ext_properties?
  intro t
  by_cases ha : a.task = t
  · have hb : b.task ≠ t := fun e => h (ha.trans e.symm)
    simp only [properties?_apply, if_pos ha, if_neg hb]
  · simp only [properties?_apply, if_neg ha]

/-! ## Operations on one task -/

/-- A delete absorbs every operation on its task that came before it. -/
theorem apply_delete_absorbs (s : Replica) {a : Operation} {t : String} (h : a.task = t) :
    (s.apply a).apply (.delete t) = s.apply (.delete t) := by
  show s.run [a, .delete t] = s.run [.delete t]
  rw [run_eq_run_iff s (t := t) (by simp [h]) (by simp)]
  rfl

/-- When an update was made has no part in what it does. -/
theorem apply_update_timestamp (s : Replica) (t p : String) (v : Option String)
    (i j : Timestamp) : s.apply (.update t p v i) = s.apply (.update t p v j) := rfl

/-- An update absorbs an update of the same property that came before it. -/
theorem apply_update_absorbs (s : Replica) (t p : String) (v w : Option String)
    (i j : Timestamp) :
    (s.apply (.update t p v i)).apply (.update t p w j) = s.apply (.update t p w j) := by
  have twice : ∀ held : Properties,
      ((held.alter p fun _ => v).alter p fun _ => w) = held.alter p fun _ => w := by
    intro held
    apply Std.ExtTreeMap.ext_getElem?
    intro q
    simp only [getElem?_alter_const]
    split <;> rfl
  show s.run [.update t p v i, .update t p w j] = s.run [.update t p w j]
  rw [run_eq_run_iff s (t := t) (by simp) (by simp)]
  cases s.properties? t with
  | none => rfl
  | some held => simp [actAll, Operation.act, twice]

/-- Updates of different properties may be applied in either order. -/
theorem apply_update_comm (s : Replica) (t : String) {p q : String} (h : p ≠ q)
    (v w : Option String) (i j : Timestamp) :
    (s.apply (.update t p v i)).apply (.update t q w j) =
      (s.apply (.update t q w j)).apply (.update t p v i) := by
  have swap : ∀ held : Properties,
      ((held.alter p fun _ => v).alter q fun _ => w) =
        (held.alter q fun _ => w).alter p fun _ => v := by
    intro held
    apply Std.ExtTreeMap.ext_getElem?
    intro r
    simp only [getElem?_alter_const]
    by_cases hp : p = r
    · have hq : q ≠ r := fun e => h (hp.trans e.symm)
      rw [if_neg hq, if_pos hp, if_pos hp]
    · rw [if_neg hp, if_neg hp]
  show s.run [.update t p v i, .update t q w j] = s.run [.update t q w j, .update t p v i]
  rw [run_eq_run_iff s (t := t) (by simp) (by simp)]
  cases s.properties? t with
  | none => rfl
  | some held => simp [actAll, Operation.act, swap]

/-- An update hides a create of its task just before it exactly when the task was there: an update
of a missing task does nothing, and the create is all that is left. -/
theorem apply_create_update_eq_iff (s : Replica) (t p : String) (v : Option String)
    (i : Timestamp) :
    (s.apply (.create t)).apply (.update t p v i) = s.apply (.update t p v i) ↔
      s.holds t = true := by
  show s.run [.create t, .update t p v i] = s.run [.update t p v i] ↔ _
  rw [run_eq_run_iff s (t := t) (by simp) (by simp), holds_eq_isSome]
  cases s.properties? t <;> simp [actAll, Operation.act]

/-- A create hides a delete of its task just before it exactly when the task had no property to
lose: a create of a present task does nothing, and one of a missing task starts from nothing. -/
theorem apply_delete_create_eq_iff (s : Replica) (t : String) :
    (s.apply (.delete t)).apply (.create t) = s.apply (.create t) ↔
      ¬ ∃ p v, s.value? t p = some v := by
  show s.run [.delete t, .create t] = s.run [.create t] ↔ _
  rw [run_eq_run_iff s (t := t) (by simp) (by simp)]
  cases hs : s.properties? t with
  | none => simp [actAll, Operation.act, value?, hs]
  | some held =>
    have acts : actAll (some held) [.delete t, .create t] = actAll (some held) [.create t] ↔
        held = ∅ := by
      simp only [actAll, List.foldl_cons, List.foldl_nil, Operation.act, Option.getD_none,
        Option.getD_some, Option.some.injEq]
      exact eq_comm
    rw [acts]
    constructor
    · rintro rfl ⟨p, v, hv⟩
      simp [value?, hs] at hv
    · intro h
      apply eq_empty_of_forall_getElem?
      intro p
      rw [Option.eq_none_iff_forall_ne_some]
      intro v hv
      exact h ⟨p, v, by simp [value?, hs, hv]⟩

end Replica

end TaskReplicas
