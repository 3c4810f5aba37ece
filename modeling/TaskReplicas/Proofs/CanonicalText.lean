import TaskReplicas.Operation.Text
import TaskReplicas.Proofs.DecimalDigits

/-!
# What the canonical text gives away

Nothing is escaped in the text of an operation, so where a field ends has to be found out. The kind
ends after six characters (`Operation.kind_and_body_eq`). A quote stands only where a field starts
or ends, as long as none occurs in the fields themselves (`Operation.Unquoted`): the task of an
update is followed by the first one, and the property and the value end at those after it. What
follows the last is a number, which ends where the brackets close. So the text is that of one
operation, but for an absent value, which reads like the value `null` (`Operation.text_eq_iff`).
-/

set_option autoImplicit false

namespace TaskReplicas

/-! ## Where a field ends -/

/-- A field without a separator in it ends at the first one. -/
theorem field_ends {c : Char} {field field' rest rest' : List Char} (h : c ∉ field)
    (h' : c ∉ field') (same : field ++ c :: rest = field' ++ c :: rest') :
    field = field' ∧ rest = rest' := by
  induction field generalizing field' with
  | nil =>
    cases field' with
    | nil =>
      cases same
      exact ⟨rfl, rfl⟩
    | cons d field' =>
      cases same
      exact absurd List.mem_cons_self h'
  | cons d field ih =>
    cases field' with
    | nil =>
      cases same
      exact absurd List.mem_cons_self h
    | cons d' field' =>
      obtain ⟨rfl, tails⟩ := List.cons.inj same
      obtain ⟨rfl, rests⟩ := ih (fun mem => h (List.mem_cons_of_mem d mem))
        (fun mem => h' (List.mem_cons_of_mem d mem)) tails
      exact ⟨rfl, rests⟩

namespace Kind

/-- All kinds have names of six characters. -/
theorem length_name (k : Kind) : k.name.toList.length = 6 := by
  cases k <;> rfl

/-- Kinds are known by their names. -/
theorem name_injective : Function.Injective name := by
  intro k k' same
  cases k <;> cases k' <;> first | rfl | (revert same; decide)

end Kind

/-! ## The text of an operation -/

namespace Operation

/-- Whether no quote occurs in the names and the value of an operation. -/
def Unquoted : Operation → Prop
  | create t => '"' ∉ t.toList
  | delete t => '"' ∉ t.toList
  | update t p v _ => '"' ∉ t.toList ∧ '"' ∉ p.toList ∧ ∀ x ∈ v, '"' ∉ x.toList

instance : (op : Operation) → Decidable op.Unquoted
  | create t => inferInstanceAs (Decidable ('"' ∉ t.toList))
  | delete t => inferInstanceAs (Decidable ('"' ∉ t.toList))
  | update t p v _ =>
    inferInstanceAs (Decidable ('"' ∉ t.toList ∧ '"' ∉ p.toList ∧ ∀ x ∈ v, '"' ∉ x.toList))

/-- An operation without quotes has none in the name of its task. -/
theorem Unquoted.task {op : Operation} (h : op.Unquoted) : '"' ∉ op.task.toList := by
  cases op with
  | create t => exact h
  | delete t => exact h
  | update t p v i => exact h.1

/-- The operation with the value `null` where its value is absent. -/
def withNull : Operation → Operation
  | update t p v i => update t p (some (v.getD "null")) i
  | op => op

/-- What stands behind the opening bracket in the text of an operation. -/
def body : Operation → List Char
  | create t => t.toList ++ [')']
  | delete t => t.toList ++ [')']
  | update t p v i =>
    (t.toList ++ [',', ' ']) ++ '"' :: (p.toList ++ '"' :: ',' :: ' ' :: '"' ::
      ((v.getD "null").toList ++ '"' :: ',' :: ' ' :: ((Decimal.integer i.toInt).toList ++ [')'])))

/-- The text of an operation is the name of its kind, a bracket and its body. -/
theorem toList_text (op : Operation) : op.text.toList = op.kind.name.toList ++ '(' :: op.body := by
  cases op <;> simp [text, kind, body, Kind.name, String.toList_append]

/-- The text of an operation does not tell an absent value from null. -/
theorem text_withNull (op : Operation) : op.withNull.text = op.text := by
  cases op <;> rfl

/-- The text of an operation gives away its kind, whatever follows it. -/
theorem kind_and_body_eq {a b : Operation} {rest rest' : List Char}
    (same : a.text.toList ++ rest = b.text.toList ++ rest') :
    a.kind = b.kind ∧ a.body ++ rest = b.body ++ rest' := by
  rw [toList_text, toList_text, List.append_assoc, List.append_assoc] at same
  obtain ⟨names, bodies⟩ := List.append_inj same (by rw [Kind.length_name, Kind.length_name])
  exact ⟨Kind.name_injective (String.toList_injective names), (List.cons.inj bodies).2⟩

/-! ### Updates -/

/-- An operation whose kind is an update is one. -/
theorem exists_update_of_kind {op : Operation} (h : op.kind = .update) :
    ∃ t p v i, op = update t p v i := by
  cases op with
  | create t => cases h
  | delete t => cases h
  | update t p v i => exact ⟨t, p, v, i, rfl⟩

/-- A value without quotes has none when it is read as null where it is absent. -/
theorem quote_notMem_getD {v : Option String} (h : ∀ x ∈ v, '"' ∉ x.toList) :
    '"' ∉ (v.getD "null").toList := by
  cases v with
  | none => decide
  | some x => exact h x rfl

/-- The body of an update field by field: the task ends at the first quote, the property at the
second and the value at the fourth. -/
theorem body_update_append (t p : String) (v : Option String) (i : Timestamp) (rest : List Char) :
    (update t p v i).body ++ rest =
      (t.toList ++ [',', ' ']) ++ '"' :: (p.toList ++ '"' :: ([',', ' ', '"'] ++
        ((v.getD "null").toList ++ '"' :: ([',', ' '] ++
          ((Decimal.integer i.toInt).toList ++ ')' :: rest))))) := by
  simp [body]

/-- The text of an update ends by itself, whatever follows it. -/
theorem withNull_eq_of_updates {a b : Operation} (ha : a.Unquoted) (hb : b.Unquoted)
    (hk : a.kind = .update) (kinds : a.kind = b.kind) {rest rest' : List Char}
    (same : a.body ++ rest = b.body ++ rest') : a.withNull = b.withNull ∧ rest = rest' := by
  obtain ⟨t, p, v, i, rfl⟩ := exists_update_of_kind hk
  obtain ⟨u, q, w, j, rfl⟩ := exists_update_of_kind (kinds.symm.trans hk)
  obtain ⟨ht, hp, hv⟩ := ha
  obtain ⟨hu, hq, hw⟩ := hb
  have spaced {t : String} (ht : '"' ∉ t.toList) : '"' ∉ t.toList ++ [',', ' '] := by
    simpa using ht
  have unbracketed (n : Int) : ')' ∉ (Decimal.integer n).toList := by
    intro bracket
    rcases integer_char bracket with sign | digit
    · cases sign
    · cases digit
  rw [body_update_append, body_update_append] at same
  obtain ⟨tasks, same⟩ := field_ends (spaced ht) (spaced hu) same
  obtain ⟨properties, same⟩ := field_ends hp hq same
  obtain ⟨values, same⟩ := field_ends (quote_notMem_getD hv) (quote_notMem_getD hw)
    (List.append_cancel_left same)
  obtain ⟨times, ends⟩ := field_ends (unbracketed i.toInt) (unbracketed j.toInt)
    (List.append_cancel_left same)
  have task := String.toList_injective (List.append_cancel_right tasks)
  have property := String.toList_injective properties
  have value := String.toList_injective values
  have time := Int64.toInt_inj.mp (integer_injective (String.toList_injective times))
  subst task property time
  exact ⟨congrArg (fun x => update t p (some x) i) value, ends⟩

/-! ### Creates and deletes -/

/-- The body of a create or a delete is its task and a bracket. -/
theorem body_of_not_update {op : Operation} (h : op.kind ≠ .update) :
    op.body = op.task.toList ++ [')'] := by
  cases op with
  | create t => rfl
  | delete t => rfl
  | update t p v i => exact absurd rfl h

/-- Creates and deletes are known by their kind and their task. -/
theorem eq_of_not_update {a b : Operation} (h : a.kind ≠ .update) (kinds : a.kind = b.kind)
    (tasks : a.task = b.task) : a = b := by
  cases a with
  | update t p v i => exact absurd rfl h
  | _ =>
    cases b <;> cases kinds
    cases tasks
    rfl

/-- The texts of two operations are equal when the operations are, but for an absent value that
reads like another. -/
theorem text_eq_iff {a b : Operation} (ha : a.Unquoted) (hb : b.Unquoted) :
    a.text = b.text ↔ a.withNull = b.withNull := by
  constructor
  · intro same
    obtain ⟨kinds, bodies⟩ := kind_and_body_eq (congrArg (String.toList · ++ []) same)
    by_cases hk : a.kind = .update
    · exact (withNull_eq_of_updates ha hb hk kinds bodies).1
    · rw [body_of_not_update hk, body_of_not_update (kinds ▸ hk), List.append_nil,
        List.append_nil] at bodies
      have tasks := String.toList_injective (List.append_cancel_right bodies)
      rw [eq_of_not_update hk kinds tasks]
  · intro same
    rw [← text_withNull a, same, text_withNull]

end Operation

end TaskReplicas
