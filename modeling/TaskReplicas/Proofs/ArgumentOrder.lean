import TaskReplicas.Proofs.Convergence

/-!
# Where the order of two operations shows

Peers need not agree on which of two operations is given first to a transform: only in a tie do
they get something else than each other. `transform_swap_iff` says so of the outputs, and
`Replica.firstThenRest_comm_iff` of the replicas that two peers reach when each gives its own
operation first: in a tie both keep their own update, and the property then has different values.
The rule that is logged is the same in both orders in any case (`resolve_rule_comm`).
-/

set_option autoImplicit false

namespace TaskReplicas

/-- The rule that an event names in the log, if it names one. -/
def Event.ruleName? (e : Event) : Option String := e.fields.lookup "rule"

/-- A tie has no sides. -/
theorem Operation.Tied.symm {a b : Operation} (h : a.Tied b) : b.Tied a := by
  cases h with
  | mk t p i hv => exact .mk t p i hv.symm

/-! ## The outputs and the log -/

/-- Swapping two operations swaps what is left of them, and nothing else, unless they tie. -/
theorem transform_swap_iff (a b : Operation) :
    transform b a = (transform a b).swap ↔ ¬ a.Tied b := by
  constructor
  · intro h ht
    rw [transform_of_tied ht, transform_of_tied ht.symm] at h
    cases h
  · exact transform_swap

/-- Which rule decides two updates of a property does not depend on which of them comes first. -/
theorem resolveValues_rule_comm (v w : Option String) (i j : Timestamp) :
    (resolveValues v w i j).2 = (resolveValues w v j i).2 := by
  by_cases hv : v = w
  · simp [resolveValues, hv]
  · have hv' : w ≠ v := fun e => hv e.symm
    by_cases hi : i < j
    · simp [resolveValues, hv, hv', hi, timestamp_lt_asymm hi]
    · by_cases hj : j < i <;> simp [resolveValues, hv, hv', hi, hj]

/-- Which rule decides two operations does not depend on which of them comes first. -/
theorem resolve_rule_comm (a b : Operation) : (resolve a b).2 = (resolve b a).2 := by
  by_cases ht : a.task = b.task
  · rw [resolve, resolve, if_pos ht, if_pos ht.symm]
    cases a with
    | create t => cases b <;> rfl
    | delete t => cases b <;> rfl
    | update t p v i =>
      cases b with
      | create u => rfl
      | delete u => rfl
      | update u q w j =>
        by_cases hp : p = q
        · subst hp
          simpa only [resolveOnTask, if_true] using resolveValues_rule_comm v w i j
        · have hp' : q ≠ p := fun e => hp e.symm
          simp [resolveOnTask, hp, hp']
  · have ht' : b.task ≠ a.task := fun e => ht e.symm
    rw [resolve, resolve, if_neg ht, if_neg ht']

/-- Transforming two operations logs the rule that decided them, and no other. -/
theorem ruleName?_transformEvents (a b : Operation) :
    (transformEvents a b).map Event.ruleName? = [some (resolve a b).2.name] := by
  rw [transformEvents]
  cases (resolve a b).1 <;> rfl

/-! ## The replicas of two peers -/

namespace Replica

variable {s : Replica} {a b : Operation}

/-- A tie ends with the value of whichever operation is named first, so the replicas differ. -/
theorem firstThenRest_ne_of_tied (ha : s.Accepts a) (h : a.Tied b) :
    s.firstThenRest a b ≠ s.firstThenRest b a := by
  rw [firstThenRest, firstThenRest, transform_of_tied h, transform_of_tied h.symm]
  cases h with
  | @mk t p v w i hv =>
    intro same
    have values := congrArg (fun r : Replica => r.value? t p) same
    have hv' : (s.apply (.update t p v i)).value? t p = v := value?_apply_update p v i ha
    have hw' : (s.apply (.update t p w i)).value? t p = w := value?_apply_update p w i ha
    exact hv (hv'.symm.trans (values.trans hw'))

/-- Without a tie it makes no difference which operation is named first. -/
theorem firstThenRest_comm (ha : s.Accepts a) (hb : s.Accepts b) (h : ¬ a.Tied b) :
    s.firstThenRest a b = s.firstThenRest b a := by
  have other : s.firstThenRest b a = s.secondThenRest a b := by
    rw [firstThenRest, secondThenRest, transform_swap h]
    rfl
  rw [other]
  exact firstThenRest_eq_of_accepts ha hb

/-- For operations that fit a replica, it makes a difference just in case of a tie which of them is
named first. -/
theorem firstThenRest_comm_iff (ha : s.Accepts a) (hb : s.Accepts b) :
    s.firstThenRest a b = s.firstThenRest b a ↔ ¬ a.Tied b := by
  constructor
  · intro same h
    exact firstThenRest_ne_of_tied ha h same
  · exact firstThenRest_comm ha hb

end Replica

/-- **The order of the arguments matters in a tie and nowhere else.** Outputs change places with the
operations exactly when the two are not tied; when they are, each order keeps the operation that is
given first; and one rule is logged in both orders. Two peers that each give their own operation
first, from a replica that both operations fit, reach the same replica exactly when they are not
tied. -/
theorem order_matters_iff_tied (a b : Operation) :
    (transform b a = (transform a b).swap ↔ ¬ a.Tied b) ∧
    (a.Tied b → transform a b = (some a, none) ∧ transform b a = (some b, none)) ∧
    (∃ rule : Rule, (resolve a b).2 = rule ∧ (resolve b a).2 = rule ∧
      (transformEvents a b).map Event.ruleName? = [some rule.name] ∧
      (transformEvents b a).map Event.ruleName? = [some rule.name]) ∧
    ∀ s : Replica, s.Accepts a → s.Accepts b →
      ((s.apply a).applyOption (transform a b).2 = (s.apply b).applyOption (transform b a).2 ↔
        ¬ a.Tied b) := by
  refine ⟨transform_swap_iff a b, ?_, ?_, ?_⟩
  · intro h
    exact ⟨transform_of_tied h, transform_of_tied h.symm⟩
  · have same := resolve_rule_comm b a
    refine ⟨(resolve a b).2, rfl, same, ruleName?_transformEvents a b, ?_⟩
    rw [ruleName?_transformEvents, same]
  · intro s ha hb
    exact Replica.firstThenRest_comm_iff ha hb

/-- A tie at the greatest of all timestamps, where the peers differ, and the same update against a
delete, where they do not. -/
theorem order_matters_iff_tied_at_maxValue :
    let s := Replica.empty.apply (.create "abc")
    let a := Operation.update "abc" "due" (some "monday") Int64.maxValue
    let b := Operation.update "abc" "due" none Int64.maxValue
    let c := Operation.delete "abc"
    (s.Accepts a ∧ s.Accepts b ∧ a.Tied b ∧
      transform a b = (some a, none) ∧ transform b a = (some b, none) ∧
      (s.apply a).applyOption (transform a b).2 ≠ (s.apply b).applyOption (transform b a).2) ∧
    s.Accepts c ∧ ¬ a.Tied c ∧
      (s.apply a).applyOption (transform a c).2 = (s.apply c).applyOption (transform c a).2 := by
  intro s a b c
  have ha : s.Accepts a := by decide
  have hb : s.Accepts b := by decide
  have hc : s.Accepts c := trivial
  have tied : a.Tied b := .mk "abc" "due" Int64.maxValue (by decide)
  have untied : ¬ a.Tied c := by
    show ¬ Operation.Tied (.update "abc" "due" (some "monday") Int64.maxValue) (.delete "abc")
    rintro ⟨⟩
  obtain ⟨keepsA, keepsB⟩ := (order_matters_iff_tied a b).2.1 tied
  refine ⟨⟨ha, hb, tied, keepsA, keepsB, ?_⟩, hc, untied, ?_⟩
  · intro same
    exact ((order_matters_iff_tied a b).2.2.2 s ha hb).mp same tied
  · exact ((order_matters_iff_tied a c).2.2.2 s ha hc).mpr untied

end TaskReplicas
