import TaskReplicas.Proofs.CanonicalText
import TaskReplicas.Proofs.LoggedDecisions
import TaskReplicas.Proofs.RoundCounts

/-!
# What a line of the log is about

The line of a decision has the text of each operation in a field of its own. The label of a
divergence puts two texts side by side, and nothing tells where the first ends when it is a create
or a delete. What helps is that diverging operations are about one task
(`Replica.task_eq_of_diverges`), which the label then names twice: the length of what comes before
the first quote gives away that of the task (`pairLabel_eq_iff`). So a line tells what it is about,
as far as the texts do (`Event.line_eq_iff`).
-/

set_option autoImplicit false

namespace TaskReplicas

/-! ## The label of two operations -/

open Operation (text_eq_iff)

/-- The part of a text that comes before its first quote. -/
def beforeQuote (cs : List Char) : List Char := cs.takeWhile (· != '"')

/-- A text without quotes is part of what comes before the first quote. -/
theorem beforeQuote_append {cs : List Char} (h : '"' ∉ cs) (rest : List Char) :
    beforeQuote (cs ++ rest) = cs ++ beforeQuote rest := by
  refine List.takeWhile_append_of_pos fun c mem => ?_
  rw [bne_iff_ne]
  rintro rfl
  exact h mem

/-- What follows the first operation in a label. -/
def labelRest (op : Operation) : List Char := ',' :: ' ' :: (op.text.toList ++ [')'])

/-- A label is a bracket, the text of the first operation and what follows it. -/
theorem toList_pairLabel (a b : Operation) :
    (pairLabel a b).toList = '(' :: (a.text.toList ++ labelRest b) := by
  simp [pairLabel, labelRest, String.toList_append]

/-- Up to the first quote, the body of an operation is its task and two more characters, whatever
the kind is: what bounds the task is as long for all kinds. -/
theorem length_beforeQuote_body {op : Operation} (h : op.Unquoted) :
    (beforeQuote (op.body ++ [')'])).length = op.task.toList.length + 2 := by
  by_cases hk : op.kind = .update
  · obtain ⟨t, p, v, i, rfl⟩ := Operation.exists_update_of_kind hk
    rw [Operation.body_update_append, List.append_assoc, beforeQuote_append h.1, List.length_append]
    rfl
  · rw [Operation.body_of_not_update hk, List.append_assoc, beforeQuote_append h.task,
      List.length_append]
    rfl

/-- What follows the first operation has no quote for as long as the task of the second is, and
eleven characters more; then comes a quote or the end. -/
theorem length_beforeQuote_labelRest {op : Operation} (h : op.Unquoted) :
    (beforeQuote (labelRest op)).length = op.task.toList.length + 11 := by
  have opening : '"' ∉ [',', ' '] ++ op.kind.name.toList ++ ['('] := by
    generalize op.kind = k
    cases k <;> decide
  have split : labelRest op =
      ([',', ' '] ++ op.kind.name.toList ++ ['(']) ++ (op.body ++ [')']) := by
    simp [labelRest, Operation.toList_text]
  rw [split, beforeQuote_append opening, List.length_append, length_beforeQuote_body h]
  simp only [List.length_append, Kind.length_name, List.length_cons, List.length_nil]
  omega

/-- When no quote ends the first operation, the length of what comes before the first quote gives
away that of the task, which stands there twice. -/
theorem task_eq_of_label {a b c d : Operation} (ha : a.Unquoted) (hb : b.Unquoted)
    (hc : c.Unquoted) (hd : d.Unquoted) (hab : a.task = b.task) (hcd : c.task = d.task)
    (hk : a.kind ≠ .update) (kinds : a.kind = c.kind)
    (same : a.body ++ labelRest b = c.body ++ labelRest d) : a.task = c.task := by
  have closed {op : Operation} (h : op.Unquoted) : '"' ∉ op.task.toList ++ [')'] := by
    simpa using h.task
  rw [Operation.body_of_not_update hk, Operation.body_of_not_update (kinds ▸ hk)] at same
  have long := congrArg (fun cs => (beforeQuote cs).length) same
  simp only [beforeQuote_append (closed ha), beforeQuote_append (closed hc), List.length_append,
    length_beforeQuote_labelRest hb, length_beforeQuote_labelRest hd, ← hab, ← hcd,
    List.length_singleton] at long
  rw [List.append_assoc, List.append_assoc] at same
  exact String.toList_injective (List.append_inj_left same (by omega))

/-- Two operations of one task are known by their label, an absent value read as null. -/
theorem pairLabel_eq_iff {a b c d : Operation} (ha : a.Unquoted) (hb : b.Unquoted)
    (hc : c.Unquoted) (hd : d.Unquoted) (hab : a.task = b.task) (hcd : c.task = d.task) :
    pairLabel a b = pairLabel c d ↔ a.withNull = c.withNull ∧ b.withNull = d.withNull := by
  constructor
  · intro same
    have texts := congrArg String.toList same
    rw [toList_pairLabel, toList_pairLabel] at texts
    obtain ⟨kinds, bodies⟩ := Operation.kind_and_body_eq (List.cons.inj texts).2
    have parts : a.withNull = c.withNull ∧ labelRest b = labelRest d := by
      by_cases hk : a.kind = .update
      · exact Operation.withNull_eq_of_updates ha hc hk kinds bodies
      · have tasks := task_eq_of_label ha hb hc hd hab hcd hk kinds bodies
        have first := Operation.eq_of_not_update hk kinds tasks
        rw [first] at bodies ⊢
        exact ⟨rfl, List.append_cancel_left bodies⟩
    have second : b.text.toList ++ [')'] = d.text.toList ++ [')'] :=
      (List.cons.inj (List.cons.inj parts.2).2).2
    have text := String.toList_injective (List.append_cancel_right second)
    exact ⟨parts.1, (text_eq_iff hb hd).mp text⟩
  · rintro ⟨first, second⟩
    unfold pairLabel
    rw [(text_eq_iff ha hc).mpr first, (text_eq_iff hb hd).mpr second]

/-- Two pairs that are not each about one task can have one label. -/
example :
    pairLabel (.create "a), Create(b") (.create "c") =
      pairLabel (.create "a") (.create "b), Create(c") := by
  decide

/-! ## Lines of the log -/

namespace Event

/-- Whether no quote occurs in the operations of an event, which are about one task where they
diverged. -/
def Plain : Event → Prop
  | independent a b _ => a.Unquoted ∧ b.Unquoted
  | redundant a b _ => a.Unquoted ∧ b.Unquoted
  | resolved a b _ => a.Unquoted ∧ b.Unquoted
  | diverged a b => (a.Unquoted ∧ b.Unquoted) ∧ a.task = b.task
  | roundDrawn _ _ => True

/-- The event with the value `null` in its operations where a value is absent. -/
def withNull : Event → Event
  | independent a b rule => independent a.withNull b.withNull rule
  | redundant a b rule => redundant a.withNull b.withNull rule
  | resolved kept dropped rule => resolved kept.withNull dropped.withNull rule
  | diverged a b => diverged a.withNull b.withNull
  | roundDrawn pairs now => roundDrawn pairs now

/-- The message of an event does not show values. -/
theorem message_withNull (e : Event) : e.withNull.message = e.message := by
  cases e <;> rfl

/-- The fields of an event do not tell an absent value from null. -/
theorem fields_withNull (e : Event) : e.withNull.fields = e.fields := by
  cases e <;> simp only [withNull, fields, pairLabel, Operation.text_withNull]

/-- Two operations and a rule are known by the fields that show them. -/
theorem operations_eq_of_fields {a b c d : Operation} (h : a.Unquoted ∧ b.Unquoted)
    (h' : c.Unquoted ∧ d.Unquoted) {rule rule' : Rule} {x y z : String}
    (same : [(x, a.text), (y, b.text), (z, rule.name)] =
      [(x, c.text), (y, d.text), (z, rule'.name)]) :
    a.withNull = c.withNull ∧ b.withNull = d.withNull ∧ rule = rule' := by
  simp only [List.cons.injEq, Prod.mk.injEq, true_and, and_true] at same
  obtain ⟨first, second, named⟩ := same
  rw [text_eq_iff h.1 h'.1] at first
  rw [text_eq_iff h.2 h'.2] at second
  exact ⟨first, second, Rule.name_injective named⟩

/-- A line of the log says what it is about. -/
theorem line_eq_iff {e e' : Event} (h : e.Plain) (h' : e'.Plain) :
    e.message = e'.message ∧ e.fields = e'.fields ↔ e.withNull = e'.withNull := by
  constructor
  · rintro ⟨words, values⟩
    cases e with
    | independent a b rule =>
      cases e' with
      | independent c d rule' =>
        obtain ⟨first, second, rfl⟩ := operations_eq_of_fields h h' values
        rw [withNull, withNull, first, second]
      | _ => simp [message] at words
    | redundant a b rule =>
      cases e' with
      | redundant c d rule' =>
        obtain ⟨first, second, rfl⟩ := operations_eq_of_fields h h' values
        rw [withNull, withNull, first, second]
      | _ => simp [message] at words
    | resolved a b rule =>
      cases e' with
      | resolved c d rule' =>
        obtain ⟨first, second, rfl⟩ := operations_eq_of_fields h h' values
        rw [withNull, withNull, first, second]
      | _ => simp [message] at words
    | diverged a b =>
      cases e' with
      | diverged c d =>
        simp only [fields, List.cons.injEq, Prod.mk.injEq, true_and, and_true] at values
        obtain ⟨first, second⟩ := (pairLabel_eq_iff h.1.1 h.1.2 h'.1.1 h'.1.2 h.2 h'.2).mp values
        rw [withNull, withNull, first, second]
      | _ => simp [message] at words
    | roundDrawn pairs now =>
      cases e' with
      | roundDrawn pairs' now' =>
        simp only [fields, List.cons.injEq, Prod.mk.injEq, true_and, and_true] at values
        rw [natural_injective values.1, Int64.toInt_inj.mp (integer_injective values.2)]
      | _ => simp [message] at words
  · intro same
    rw [← message_withNull e, ← fields_withNull e, same, message_withNull, fields_withNull]
    exact ⟨rfl, rfl⟩

end Event

/-- Only operations on one task can diverge. -/
theorem Replica.task_eq_of_diverges {s : Replica} {a b : Operation} (h : s.diverges a b = true) :
    a.task = b.task := by
  rw [diverges_iff] at h
  rcases h with ⟨t, p, v, i, -, ⟨rfl, rfl⟩ | ⟨rfl, rfl⟩⟩ | ⟨t, -, ⟨rfl, rfl⟩ | ⟨rfl, rfl⟩⟩ <;> rfl

/-- What is logged of a pair without quotes is plain. -/
theorem plain_of_mem_checkPair {s : Replica} {a b : Operation} (ha : a.Unquoted)
    (hb : b.Unquoted) {e : Event} (he : e ∈ (checkPair s (a, b)).2) : e.Plain := by
  unfold checkPair transformEvents at he
  rw [List.mem_append, List.mem_singleton] at he
  rcases he with rfl | warned
  · cases (resolve a b).1 with
    | keepBoth => exact ⟨ha, hb⟩
    | dropBoth => exact ⟨ha, hb⟩
    | keepFirst => exact ⟨ha, hb⟩
    | keepSecond => exact ⟨hb, ha⟩
  · split at warned
    · next diverged =>
      rw [List.mem_singleton] at warned
      subst warned
      exact ⟨⟨ha, hb⟩, Replica.task_eq_of_diverges diverged⟩
    · cases warned

/-- **The text of an operation names it.** Where no quote occurs in names and values, the texts of
two operations are equal exactly when the operations are, once an absent value is read as the value
`null`. So whatever is logged while pairs of such operations are checked, from any replicas, the
lines are equal exactly when they are about the same operations, but for that: the decision on a
pair and the label of a divergence alike. -/
theorem text_names_operation {a b : Operation} (ha : a.Unquoted) (hb : b.Unquoted) :
    (a.text = b.text ↔ a.withNull = b.withNull) ∧
    ∀ c d : Operation, c.Unquoted → d.Unquoted → ∀ s s' : Replica,
      ∀ e ∈ (checkPair s (a, b)).2, ∀ e' ∈ (checkPair s' (c, d)).2,
        (e.message = e'.message ∧ e.fields = e'.fields ↔ e.withNull = e'.withNull) := by
  refine ⟨text_eq_iff ha hb, ?_⟩
  intro c d hc hd s s' e he e' he'
  exact Event.line_eq_iff (plain_of_mem_checkPair ha hb he) (plain_of_mem_checkPair hc hd he')

/-- A clear and the setting of `null`, of a task with brackets and commas in its name: their texts
are equal, and so are the labels of the divergences that a create of the task has with them. -/
theorem text_names_operation_cleared :
    let a := Operation.create "a), Delete(b"
    let b := Operation.update "a), Delete(b" "due" none 5
    let d := Operation.update "a), Delete(b" "due" (some "null") 5
    (a.Unquoted ∧ b.Unquoted ∧ d.Unquoted) ∧ b ≠ d ∧ b.text = d.text ∧ a.text ≠ b.text ∧
      Event.diverged a b ∈ (checkPair ∅ (a, b)).2 ∧ Event.diverged a d ∈ (checkPair ∅ (a, d)).2 ∧
      (Event.diverged a b).fields = (Event.diverged a d).fields := by
  intro a b d
  have ha : a.Unquoted := by decide
  have hb : b.Unquoted := by decide
  have hd : d.Unquoted := by decide
  have first : Event.diverged a b ∈ (checkPair ∅ (a, b)).2 := by decide
  have second : Event.diverged a d ∈ (checkPair ∅ (a, d)).2 := by decide
  refine ⟨⟨ha, hb, hd⟩, by decide, (text_names_operation hb hd).1.mpr rfl, ?_, first, second, ?_⟩
  · intro same
    cases (text_names_operation ha hb).1.mp same
  · exact (((text_names_operation ha hb).2 a d ha hd ∅ ∅ _ first _ second).mpr rfl).2

end TaskReplicas
