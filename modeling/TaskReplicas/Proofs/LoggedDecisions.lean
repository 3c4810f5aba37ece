import TaskReplicas.Proofs.ArgumentOrder

/-!
# What the log says of a decision

An operation that is dropped leaves no trace but the event that names it. `Recorded` is what there
is to say about two operations, by what is left of them: how much it matters, the words, and which
operation stands in which field. The event of a decision says that (`recorded_event`), and says it
of the operations that are in fact returned, as both follow one resolution.

The rule in the log decides what is left (`Settles`): it keeps both operations, or none, or the one
that it prefers. As a rule never prefers both ways (`Rule.Prefers.asymm`), there is one outcome that
it allows for a pair (`Settles.unique`), and this is the one that the pair had.
-/

set_option autoImplicit false

namespace TaskReplicas

/-- What the log says of two operations, by what is left of them. -/
inductive Recorded (a b : Operation) (rule : Rule) :
    Transformed → Level → String → List (String × String) → Prop
  | independent : Recorded a b rule (some a, some b) .trace "operations are independent"
    [("op1", a.text), ("op2", b.text), ("rule", rule.name)]
  | redundant : Recorded a b rule (none, none) .debug "operations are redundant, dropping both"
    [("op1", a.text), ("op2", b.text), ("rule", rule.name)]
  | keptFirst : Recorded a b rule (some a, none) .debug "operation conflict resolved"
    [("kept", a.text), ("dropped", b.text), ("rule", rule.name)]
  | keptSecond : Recorded a b rule (none, some b) .debug "operation conflict resolved"
    [("kept", b.text), ("dropped", a.text), ("rule", rule.name)]

/-- Which of two operations a rule prefers to the other, wherever it stands. -/
def Rule.Prefers : Rule → Operation → Operation → Prop
  | .createOverDelete, x, y => x.kind = .create ∧ y.kind = .delete
  | .updateOverCreate, x, y => x.kind = .update ∧ y.kind = .create
  | .deleteOverUpdate, x, y => x.kind = .delete ∧ y.kind = .update
  | .laterTimestamp, x, y => ∃ i j, x.timestamp = .ok i ∧ y.timestamp = .ok j ∧ j < i
  | _, _, _ => False

/-- What is left of two operations by a rule. -/
inductive Settles (a b : Operation) : Rule → Transformed → Prop
  | differentTasks : Settles a b .differentTasks (some a, some b)
  | differentProperties : Settles a b .differentProperties (some a, some b)
  | sameKind : Settles a b .sameKind (none, none)
  | sameValue : Settles a b .sameValue (none, none)
  | timestampTie : Settles a b .timestampTie (some a, none)
  | first {rule : Rule} (h : rule.Prefers a b) : Settles a b rule (some a, none)
  | second {rule : Rule} (h : rule.Prefers b a) : Settles a b rule (none, some b)

/-! ## The rule -/

/-- Rules are known by their names. -/
theorem Rule.name_injective : Function.Injective Rule.name := by
  intro r r' same
  cases r <;> cases r' <;> first | rfl | (revert same; decide)

/-- No rule prefers both of two operations to each other. -/
theorem Rule.Prefers.asymm {rule : Rule} {x y : Operation} (h : rule.Prefers x y) :
    ¬ rule.Prefers y x := by
  intro back
  cases rule with
  | createOverDelete => cases h.1.symm.trans back.2
  | updateOverCreate => cases h.1.symm.trans back.2
  | deleteOverUpdate => cases h.1.symm.trans back.2
  | laterTimestamp =>
    obtain ⟨i, j, hi, hj, later⟩ := h
    obtain ⟨j', i', hj', hi', later'⟩ := back
    cases hi.symm.trans hi'
    cases hj.symm.trans hj'
    exact timestamp_lt_asymm later later'
  | _ => exact h

/-- What a ruling keeps is what its rule leaves. -/
theorem settles_of_ruling {a b : Operation} {kept : Resolution} {rule : Rule}
    (h : Ruling a b kept rule) : Settles a b rule (kept.outputs a b) := by
  cases h with
  | differentTasks _ => exact .differentTasks
  | creates t => exact .sameKind
  | deletes t => exact .sameKind
  | createDelete t => exact .first ⟨rfl, rfl⟩
  | deleteCreate t => exact .second ⟨rfl, rfl⟩
  | createUpdate t p v i => exact .second ⟨rfl, rfl⟩
  | updateCreate t p v i => exact .first ⟨rfl, rfl⟩
  | deleteUpdate t p v i => exact .first ⟨rfl, rfl⟩
  | updateDelete t p v i => exact .second ⟨rfl, rfl⟩
  | differentProperties t v w i j _ => exact .differentProperties
  | sameValue t p v i j => exact .sameValue
  | laterSecond t p _ later => exact .second ⟨_, _, rfl, rfl, later⟩
  | laterFirst t p _ later => exact .first ⟨_, _, rfl, rfl, later⟩
  | tie t p i _ => exact .timestampTie

/-- A rule leaves one thing of two operations. -/
theorem Settles.unique {a b : Operation} {rule : Rule} {out out' : Transformed}
    (h : Settles a b rule out) (h' : Settles a b rule out') : out = out' := by
  cases h with
  | first prefers =>
    cases h' with
    | first _ => rfl
    | second back => exact absurd back prefers.asymm
    | timestampTie => rfl
    | _ => exact prefers.elim
  | second prefers =>
    cases h' with
    | first back => exact absurd back prefers.asymm
    | second _ => rfl
    | _ => exact prefers.elim
  | timestampTie =>
    cases h' with
    | timestampTie => rfl
    | first _ => rfl
    | second prefers => exact prefers.elim
  | _ =>
    cases h' with
    | first prefers => exact prefers.elim
    | second prefers => exact prefers.elim
    | _ => rfl

/-! ## The event -/

/-- The event of a decision records it. -/
theorem recorded_event (a b : Operation) (rule : Rule) (kept : Resolution) :
    Recorded a b rule (kept.outputs a b) (kept.event a b rule).level
      (kept.event a b rule).message (kept.event a b rule).fields := by
  cases kept with
  | keepBoth => exact .independent
  | dropBoth => exact .redundant
  | keepFirst => exact .keptFirst
  | keepSecond => exact .keptSecond

/-- A decision is logged as a trace just in case both operations survive. -/
theorem level_event_eq_trace_iff (a b : Operation) (rule : Rule) (kept : Resolution) :
    (kept.event a b rule).level = .trace ↔ kept = .keepBoth := by
  cases kept <;> simp [Resolution.event, Event.level]

/-- The event of a decision names the rule that decided, and no other. -/
theorem ruleName?_event_eq_some_iff (a b : Operation) (rule : Rule) (kept : Resolution)
    (other : Rule) :
    (kept.event a b rule).ruleName? = some other.name ↔ other = rule := by
  have named : (kept.event a b rule).ruleName? = some rule.name := by
    cases kept <;> rfl
  rw [named, Option.some_inj, Rule.name_injective.eq_iff]
  exact eq_comm

/-- **The log tells what was decided, and why.** Transforming two operations logs one event, below
all others in level exactly when the two commute. Its words and fields name the operations that are
returned and those that are not, each in its place. It names one rule, and what is returned is what
that rule leaves of the two operations, and the only thing that it does. -/
theorem log_tells_decision (a b : Operation) :
    ∃ (e : Event) (rule : Rule), transformEvents a b = [e] ∧
      (e.level = .trace ↔ commutes a b = true) ∧
      Recorded a b rule (transform a b) e.level e.message e.fields ∧
      (∀ other : Rule, e.ruleName? = some other.name ↔ other = rule) ∧
      ∀ out, Settles a b rule out ↔ out = transform a b := by
  have settled := settles_of_ruling (ruling_resolve a b)
  refine ⟨(resolve a b).1.event a b (resolve a b).2, (resolve a b).2, rfl, ?_, ?_, ?_, ?_⟩
  · rw [level_event_eq_trace_iff, commutes, decide_eq_true_iff]
  · exact recorded_event a b (resolve a b).2 (resolve a b).1
  · exact ruleName?_event_eq_some_iff a b (resolve a b).2 (resolve a b).1
  · intro out
    constructor
    · intro allowed
      exact allowed.unique settled
    · rintro rfl
      exact settled

end TaskReplicas
