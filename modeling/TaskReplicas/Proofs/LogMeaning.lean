import Mathlib.Data.List.DropRight
import TaskReplicas.Proofs.Absorption

/-!
# What a log means for a task

Instead of carrying out a log step by step one can read off it what becomes of a task and of each of
its properties. A delete wipes out all that came before it, so only what is behind the last delete
counts (`sinceDelete`); a task that was missing begins with the first create there (`sinceCreate`);
and a property has the value that the last update from then on gave it (`lastGiven?`).

One operation acts on the presence of a task as `Replica.holds_apply_iff` says and on the value of a
property as `Replica.value?_apply` says. Logs without a delete of the task follow by induction, and
every log is such a log behind its last delete.
-/

set_option autoImplicit false

namespace TaskReplicas

namespace Operation

/-- What an operation gives a property of a task, if it is an update of it: a value, or none where
the property is cleared. -/
def gives? (t p : String) : Operation → Option (Option String)
  | update u q v _ => if u = t ∧ q = p then some v else none
  | _ => none

/-- An operation without the time at which it was made. -/
def untimed : Operation → Operation
  | update t p v _ => update t p v 0
  | op => op

end Operation

/-- The part of a log behind the last delete of a task: all of it when there is none. -/
def sinceDelete (t : String) (log : List Operation) : List Operation :=
  log.rtakeWhile (· ≠ .delete t)

/-- The part of a log behind the first create of a task: nothing when there is none. -/
def sinceCreate (t : String) (log : List Operation) : List Operation :=
  (log.dropWhile (· ≠ .create t)).tail

/-- What the last update of a property in a log gave it, if there is one. -/
def lastGiven? (t p : String) (log : List Operation) : Option (Option String) :=
  (log.filterMap (Operation.gives? t p)).getLast?

/-! ## Parts of a log -/

/-- Where an operation does not occur, every other one differs from it. -/
theorem forall_ne_of_not_mem {x : Operation} {log : List Operation} (h : x ∉ log) :
    ∀ op ∈ log, decide (op ≠ x) = true := by
  intro op hop
  rw [decide_eq_true_iff]
  rintro rfl
  exact h hop

/-- Without a delete the whole log counts. -/
theorem sinceDelete_of_not_mem {t : String} {log : List Operation} (h : .delete t ∉ log) :
    sinceDelete t log = log := by
  rw [sinceDelete, List.rtakeWhile_eq_self_iff]
  exact forall_ne_of_not_mem h

/-- What stands behind the last delete counts. -/
theorem sinceDelete_append_delete {t : String} (K : List Operation) {M : List Operation}
    (h : .delete t ∉ M) : sinceDelete t (K ++ .delete t :: M) = M := by
  have behind : .delete t ∉ M.reverse := fun hm => h (List.mem_reverse.mp hm)
  rw [sinceDelete, List.rtakeWhile, List.reverse_append, List.reverse_cons, List.append_assoc,
    List.takeWhile_append_of_pos (forall_ne_of_not_mem behind)]
  simp

/-- Behind the last delete there is none. -/
theorem not_mem_sinceDelete (t : String) (log : List Operation) :
    .delete t ∉ sinceDelete t log := by
  intro h
  have kept := List.mem_rtakeWhile_imp h
  simp at kept

/-- A log with a delete has a last one. -/
theorem exists_last_delete {t : String} {log : List Operation} (h : .delete t ∈ log) :
    ∃ K M, log = K ++ .delete t :: M ∧ .delete t ∉ M := by
  obtain ⟨M, K, split, hM⟩ := List.eq_append_cons_of_mem (List.mem_reverse.mpr h)
  refine ⟨K.reverse, M.reverse, ?_, fun hm => hM (List.mem_reverse.mp hm)⟩
  rw [← List.reverse_reverse log, split, List.reverse_append, List.reverse_cons,
    List.append_assoc, List.singleton_append]

/-- What stands behind the first create counts. -/
theorem sinceCreate_append_create {t : String} {K : List Operation} (M : List Operation)
    (h : .create t ∉ K) : sinceCreate t (K ++ .create t :: M) = M := by
  rw [sinceCreate, List.dropWhile_append_of_pos (forall_ne_of_not_mem h)]
  simp

/-- Without a create nothing counts. -/
theorem sinceCreate_of_not_mem {t : String} {log : List Operation} (h : .create t ∉ log) :
    sinceCreate t log = [] := by
  rw [sinceCreate, List.dropWhile_eq_nil_iff.mpr (forall_ne_of_not_mem h)]
  rfl

/-- The first operation of a log gives the last value where no later one does. -/
theorem lastGiven?_cons (t p : String) (op : Operation) (log : List Operation) :
    lastGiven? t p (op :: log) = (lastGiven? t p log).or (op.gives? t p) := by
  rw [lastGiven?, lastGiven?, List.filterMap_cons]
  cases op.gives? t p with
  | none => simp
  | some v => rw [List.getLast?_cons]; cases (log.filterMap _).getLast? <;> rfl

namespace Replica

/-! ## One operation -/

/-- After an operation a task is there just in case the operation creates it, or it was there and is
not deleted. -/
theorem holds_apply_iff (s : Replica) (op : Operation) (t : String) :
    (s.apply op).holds t = true ↔ op = .create t ∨ op ≠ .delete t ∧ s.holds t = true := by
  by_cases h : op.task = t
  · subst h
    rw [holds_apply_self, holds_eq_isSome]
    cases op with
    | create t => simp [Operation.act]
    | delete t => simp [Operation.act]
    | update t p v i => simp [Operation.act]
  · have created : op ≠ .create t := by rintro rfl; exact h rfl
    have deleted : op ≠ .delete t := by rintro rfl; exact h rfl
    simp [s.holds_apply_of_ne h, created, deleted]

/-- A missing task has no values. -/
theorem value?_of_missing {s : Replica} {t : String} (p : String) (h : s.holds t = false) :
    s.value? t p = none := by
  rw [holds_eq_isSome, Option.isSome_eq_false_iff, Option.isNone_iff_eq_none] at h
  rw [value?, h]
  rfl

/-- A property of a task that is there and stays there has the value that the operation gives it, or
else the one that it had. A task that has just been created has no values. -/
theorem value?_apply (s : Replica) (op : Operation) (t p : String) :
    (s.apply op).value? t p =
      if op ≠ .delete t ∧ s.holds t = true then (op.gives? t p).getD (s.value? t p) else none := by
  by_cases h : op.task = t
  · subst h
    rw [value?, properties?_apply, if_pos rfl, holds_eq_isSome, value?]
    cases op with
    | create t => cases hs : s.properties? t <;> simp [hs, Operation.act, Operation.gives?]
    | delete t => simp [Operation.act]
    | update t q v i =>
      cases hs : s.properties? t with
      | none => simp [hs, Operation.act]
      | some held =>
        by_cases hq : q = p <;>
          simp [hs, Operation.act, Operation.gives?, getElem?_alter_const, hq]
  · have deleted : op ≠ .delete t := by rintro rfl; exact h rfl
    have given : op.gives? t p = none := by
      cases op with
      | create u => rfl
      | delete u => rfl
      | update u q v i => exact if_neg fun e => h e.1
    have same : (s.apply op).value? t p = s.value? t p := by
      rw [value?, properties?_apply, if_neg h, value?]
    rw [same, given]
    cases hs : s.holds t with
    | false => simp [value?_of_missing p hs]
    | true => simp [deleted]

/-! ## Logs without a delete -/

variable {s : Replica} {t : String}

/-- Without a delete a task is there in the end just in case it was there before or is created. -/
theorem holds_run_iff {log : List Operation} (h : .delete t ∉ log) :
    (s.run log).holds t = true ↔ .create t ∈ log ∨ s.holds t = true := by
  induction log generalizing s with
  | nil => simp [run]
  | cons op log ih =>
    rw [List.mem_cons, not_or] at h
    have kept : op ≠ .delete t := fun e => h.1 e.symm
    show ((s.apply op).run log).holds t = true ↔ _
    rw [ih h.2, holds_apply_iff, List.mem_cons, eq_comm (a := op)]
    tauto

/-- Without a delete, a property of a task that was there has the last value that it is given, or
else its old one. -/
theorem value?_run {log : List Operation} (p : String) (h : .delete t ∉ log)
    (hs : s.holds t = true) :
    (s.run log).value? t p = (lastGiven? t p log).getD (s.value? t p) := by
  induction log generalizing s with
  | nil => rfl
  | cons op log ih =>
    rw [List.mem_cons, not_or] at h
    have kept : op ≠ .delete t := fun e => h.1 e.symm
    have here : (s.apply op).holds t = true := (s.holds_apply_iff op t).mpr (.inr ⟨kept, hs⟩)
    show ((s.apply op).run log).value? t p = _
    rw [ih h.2 here, value?_apply, if_pos ⟨kept, hs⟩, lastGiven?_cons]
    cases lastGiven? t p log <;> rfl

/-- Without a delete, a property of a task that was missing has the last value that it is given
behind the first create. -/
theorem value?_run_of_missing {log : List Operation} (p : String) (h : .delete t ∉ log)
    (hs : s.holds t = false) :
    (s.run log).value? t p = (lastGiven? t p (sinceCreate t log)).getD none := by
  by_cases hc : .create t ∈ log
  · -- up to its first create the task stays missing, and the create gives it no values
    obtain ⟨K, M, rfl, hK⟩ := List.eq_append_cons_of_mem hc
    rw [List.mem_append, not_or, List.mem_cons, not_or] at h
    have missing : (s.run K).holds t = false := by
      rw [← Bool.not_eq_true, holds_run_iff h.1, hs]
      simp [hK]
    have there : ((s.run K).apply (.create t)).holds t = true :=
      (holds_apply_iff _ _ _).mpr (.inl rfl)
    have bare : ((s.run K).apply (.create t)).value? t p = none := by
      rw [value?_apply, if_neg (by simp [missing])]
    rw [sinceCreate_append_create M hK, run_append]
    show (((s.run K).apply (.create t)).run M).value? t p = _
    rw [value?_run p h.2.2 there, bare]
  · have missing : (s.run log).holds t = false := by
      rw [← Bool.not_eq_true, holds_run_iff h, hs]
      simp [hc]
    rw [value?_of_missing p missing, sinceCreate_of_not_mem hc]
    rfl

/-! ## Any log -/

/-- Behind the last delete of a task, a log goes on from a replica without the task. -/
theorem run_eq_run_sinceDelete {log : List Operation} (h : .delete t ∈ log) :
    ∃ s' : Replica, s'.holds t = false ∧ s.run log = s'.run (sinceDelete t log) := by
  obtain ⟨K, M, rfl, hM⟩ := exists_last_delete h
  refine ⟨(s.run K).apply (.delete t), (s.run K).holds_apply_self (.delete t), ?_⟩
  rw [sinceDelete_append_delete K hM, run_append]
  rfl

/-- After a log a task is there just in case it is created behind its last delete, or it was there
and is never deleted. -/
theorem holds_run (s : Replica) (log : List Operation) (t : String) :
    (s.run log).holds t = true ↔
      .create t ∈ sinceDelete t log ∨ .delete t ∉ log ∧ s.holds t = true := by
  by_cases h : .delete t ∈ log
  · obtain ⟨s', missing, same⟩ := run_eq_run_sinceDelete (s := s) h
    rw [same, holds_run_iff (not_mem_sinceDelete t log), missing]
    simp [h]
  · rw [sinceDelete_of_not_mem h, holds_run_iff h]
    simp [h]

/-- The value of a property after a log: the last one that it is given while the task is there,
counted from its last delete on. -/
theorem value?_run_eq (s : Replica) (log : List Operation) (t p : String) :
    (s.run log).value? t p =
      if .delete t ∉ log ∧ s.holds t = true then (lastGiven? t p log).getD (s.value? t p)
      else (lastGiven? t p (sinceCreate t (sinceDelete t log))).getD none := by
  by_cases h : .delete t ∈ log
  · obtain ⟨s', missing, same⟩ := run_eq_run_sinceDelete (s := s) h
    rw [if_neg fun hn => hn.1 h, same]
    exact value?_run_of_missing p (not_mem_sinceDelete t log) missing
  · cases hs : s.holds t with
    | true =>
      rw [if_pos ⟨h, rfl⟩]
      exact value?_run p h hs
    | false =>
      rw [if_neg (by simp), sinceDelete_of_not_mem h]
      exact value?_run_of_missing p h hs

/-! ## What makes no difference -/

/-- Two replicas agree on a property of a task: in its presence, and in the value. -/
def AgreeOn (s s' : Replica) (t p : String) : Prop :=
  s.holds t = s'.holds t ∧ s.value? t p = s'.value? t p

/-- Operations that make no difference to a property of a task. -/
inductive Ignores (s : Replica) (t p : String) : Operation → Prop
  /-- An operation on another task. -/
  | otherTask {op : Operation} (h : op.task ≠ t) : Ignores s t p op
  /-- An update of another property. -/
  | otherProperty {q : String} (v : Option String) (i : Timestamp) (h : q ≠ p) :
    Ignores s t p (.update t q v i)
  /-- An update of a missing task. -/
  | missing (q : String) (v : Option String) (i : Timestamp) (h : s.holds t = false) :
    Ignores s t p (.update t q v i)
  /-- A create of a task that is there. -/
  | present (h : s.holds t = true) : Ignores s t p (.create t)

/-- Whether a task is there after an operation depends only on whether it was there before. -/
theorem holds_apply_congr {s s' : Replica} (op : Operation) {t : String}
    (h : s.holds t = s'.holds t) : (s.apply op).holds t = (s'.apply op).holds t := by
  rw [Bool.eq_iff_iff, holds_apply_iff, holds_apply_iff, h]

/-- Replicas that agree on a property agree on it after any log. -/
theorem AgreeOn.run {s s' : Replica} {t p : String} (h : s.AgreeOn s' t p)
    (log : List Operation) : (s.run log).AgreeOn (s'.run log) t p := by
  induction log generalizing s s' with
  | nil => exact h
  | cons op log ih =>
    refine ih ⟨holds_apply_congr op h.1, ?_⟩
    rw [value?_apply, value?_apply, h.1, h.2]

/-- An operation that makes no difference to a property leaves a replica that agrees on it. -/
theorem Ignores.agreeOn {s : Replica} {t p : String} {op : Operation} (h : s.Ignores t p op) :
    (s.apply op).AgreeOn s t p := by
  cases h with
  | otherTask h =>
    refine ⟨s.holds_apply_of_ne h, ?_⟩
    rw [value?, properties?_apply, if_neg h, value?]
  | @otherProperty q v i h =>
    refine ⟨s.holds_apply_update t q v i, ?_⟩
    rw [value?_apply]
    cases hs : s.holds t with
    | false => simp [value?_of_missing p hs]
    | true => simp [Operation.gives?, h]
  | missing q v i h =>
    refine ⟨s.holds_apply_update t q v i, ?_⟩
    rw [value?_apply, if_neg (by simp [h]), value?_of_missing p h]
  | present h =>
    have there : (s.apply (.create t)).holds t = true := (s.holds_apply_iff _ t).mpr (.inl rfl)
    refine ⟨there.trans h.symm, ?_⟩
    rw [value?_apply, if_pos ⟨by simp, h⟩]
    rfl

/-- The times of the operations make no difference to a replica. -/
theorem run_map_untimed (s : Replica) (log : List Operation) :
    s.run (log.map Operation.untimed) = s.run log := by
  induction log generalizing s with
  | nil => rfl
  | cons op log ih =>
    have same : s.apply op.untimed = s.apply op := by
      cases op with
      | create t => rfl
      | delete t => rfl
      | update t p v i => exact s.apply_update_timestamp t p v 0 i
    show (s.apply op.untimed).run (log.map Operation.untimed) = (s.apply op).run log
    rw [same, ih]

/-- **The meaning of a log.** A task is there in the end exactly when it is created behind its last
delete, or is never deleted and was there at the start. A property of a task that is never deleted
and was there at the start has the value that the last update gave it, or the one that it had; for
any other task only the updates behind its first create after its last delete count, and without one
there is no value. So an operation makes no difference to a property when it is about another task,
updates another property, updates the task while it is missing or creates it while it is there; and
no timestamp makes a difference to anything. -/
theorem run_meaning (s : Replica) (log : List Operation) (t p : String) :
    ((s.run log).holds t = true ↔
      .create t ∈ sinceDelete t log ∨ .delete t ∉ log ∧ s.holds t = true) ∧
    ((s.run log).value? t p =
      if .delete t ∉ log ∧ s.holds t = true then (lastGiven? t p log).getD (s.value? t p)
      else (lastGiven? t p (sinceCreate t (sinceDelete t log))).getD none) ∧
    (∀ A op B, log = A ++ op :: B → (s.run A).Ignores t p op →
      (s.run log).AgreeOn (s.run (A ++ B)) t p) ∧
    ∀ log', log'.map Operation.untimed = log.map Operation.untimed → s.run log' = s.run log := by
  refine ⟨holds_run s log t, value?_run_eq s log t p, ?_, ?_⟩
  · rintro A op B rfl idle
    rw [run_append, run_append]
    exact idle.agreeOn.run B
  · intro log' same
    rw [← run_map_untimed s log', same, run_map_untimed]

/-- A log that sets a property, loses it with its task, brings the task back, updates it twice and
creates it once more. Dropping the last operation makes no difference. -/
theorem run_meaning_recreated :
    let A : List Operation := [.create "abc", .update "abc" "due" (some "monday") 5,
      .delete "abc", .update "abc" "due" (some "tuesday") 6, .create "abc",
      .update "abc" "due" (some "friday") 9, .update "abc" "due" (some "sunday") (-1)]
    let log := A ++ [.create "abc"]
    (empty.run log).holds "abc" = true ∧ (empty.run log).value? "abc" "due" = some "sunday" ∧
      (empty.run A).Ignores "abc" "due" (.create "abc") ∧
      (empty.run log).AgreeOn (empty.run A) "abc" "due" ∧
      empty.run (log.map Operation.untimed) = empty.run log := by
  intro A log
  obtain ⟨present, value, drop, untimed⟩ := run_meaning empty log "abc" "due"
  have idle : (empty.run A).Ignores "abc" "due" (.create "abc") := .present (by decide)
  have dropped := drop A (.create "abc") [] rfl idle
  rw [List.append_nil] at dropped
  refine ⟨present.mpr (.inl (by decide)), ?_, idle, dropped, untimed _ (by decide)⟩
  rw [value]
  decide

end Replica

end TaskReplicas
