import TaskReplicas.Proofs.ArgumentOrder
import Mathlib.Data.Set.Basic

/-!
# Names are opaque, and of times only the order counts

A renaming gives tasks, properties and values other names and keeps different ones apart; it may
move times as long as it keeps their order. Nothing depends on more than that. The ruling on two
operations is the ruling on their renamed forms (`Ruling.renamed`), so a transform gives the renamed
outputs and logs the same rule. A renamed replica holds the renamed tasks and properties and nothing
else, and an operation acts on it as it did before (`Replica.renamed_apply`).

There are only `2 ^ 64` times, so no map but the identity keeps the order of all of them. What is
asked for is therefore that the order of those times is kept that occur.
-/

set_option autoImplicit false

namespace TaskReplicas

/-- Other names for tasks, properties and values, different ones for different ones, and other
times. -/
structure Renaming where
  /-- The new name of a task. -/
  task : String → String
  /-- The new name of a property. -/
  property : String → String
  /-- The new form of a value. -/
  value : String → String
  /-- The new time for a time. -/
  time : Timestamp → Timestamp
  task_injective : Function.Injective task
  property_injective : Function.Injective property
  value_injective : Function.Injective value

/-- Whether a renaming keeps the order of some times. -/
def Renaming.Ordered (ρ : Renaming) (times : Set Timestamp) : Prop :=
  ∀ i ∈ times, ∀ j ∈ times, i < j → ρ.time i < ρ.time j

/-- Whether the time of an operation, if it has one, is among some times. -/
def Operation.MadeWithin (times : Set Timestamp) : Operation → Prop
  | update _ _ _ i => i ∈ times
  | _ => True

/-- An operation with other names. -/
def Operation.renamed (ρ : Renaming) : Operation → Operation
  | create t => create (ρ.task t)
  | delete t => delete (ρ.task t)
  | update t p v i => update (ρ.task t) (ρ.property p) (v.map ρ.value) (ρ.time i)

/-- Both sides of a transform with other names. -/
def Transformed.renamed (ρ : Renaming) : Transformed → Transformed :=
  Prod.map (Option.map (·.renamed ρ)) (Option.map (·.renamed ρ))

/-- An event with other names. -/
def Event.renamed (ρ : Renaming) : Event → Event
  | independent a b rule => independent (a.renamed ρ) (b.renamed ρ) rule
  | redundant a b rule => redundant (a.renamed ρ) (b.renamed ρ) rule
  | resolved kept dropped rule => resolved (kept.renamed ρ) (dropped.renamed ρ) rule
  | diverged a b => diverged (a.renamed ρ) (b.renamed ρ)
  | roundDrawn pairs now => roundDrawn pairs (ρ.time now)

/-! ## Transforms -/

/-- A renamed operation is about the renamed task. -/
theorem Operation.task_renamed (ρ : Renaming) (op : Operation) :
    (op.renamed ρ).task = ρ.task op.task := by
  cases op <;> rfl

/-- The ruling on two operations does not depend on the names in them. -/
theorem Ruling.renamed {ρ : Renaming} {times : Set Timestamp} (ordered : ρ.Ordered times)
    {a b : Operation} {kept : Resolution} {rule : Rule} (h : Ruling a b kept rule)
    (ha : a.MadeWithin times) (hb : b.MadeWithin times) :
    Ruling (a.renamed ρ) (b.renamed ρ) kept rule := by
  have values {v w : Option String} (hv : v ≠ w) : v.map ρ.value ≠ w.map ρ.value :=
    fun same => hv (Option.map_injective ρ.value_injective same)
  cases h with
  | differentTasks h =>
    refine .differentTasks ?_
    rw [a.task_renamed, b.task_renamed]
    exact ρ.task_injective.ne h
  | creates t => exact .creates _
  | deletes t => exact .deletes _
  | createDelete t => exact .createDelete _
  | deleteCreate t => exact .deleteCreate _
  | createUpdate t p v i => exact .createUpdate _ _ _ _
  | updateCreate t p v i => exact .updateCreate _ _ _ _
  | deleteUpdate t p v i => exact .deleteUpdate _ _ _ _
  | updateDelete t p v i => exact .updateDelete _ _ _ _
  | differentProperties t v w i j h =>
    exact .differentProperties _ _ _ _ _ (ρ.property_injective.ne h)
  | sameValue t p v i j => exact .sameValue _ _ _ _ _
  | laterSecond t p hv h => exact .laterSecond _ _ (values hv) (ordered _ ha _ hb h)
  | laterFirst t p hv h => exact .laterFirst _ _ (values hv) (ordered _ hb _ ha h)
  | tie t p i hv => exact .tie _ _ _ (values hv)

variable (ρ : Renaming)

/-- Renaming changes neither what is decided of two operations nor by which rule. -/
theorem resolve_renamed {times : Set Timestamp} (ordered : ρ.Ordered times) {a b : Operation}
    (ha : a.MadeWithin times) (hb : b.MadeWithin times) :
    resolve (a.renamed ρ) (b.renamed ρ) = resolve a b :=
  ((ruling_resolve a b).renamed ordered ha hb).resolve_eq

/-- What is left of renamed operations is what was left of them, renamed. -/
theorem Resolution.outputs_renamed (kept : Resolution) (a b : Operation) :
    kept.outputs (a.renamed ρ) (b.renamed ρ) = Transformed.renamed ρ (kept.outputs a b) := by
  cases kept <;> rfl

/-- What is logged of renamed operations is what was logged of them, renamed. -/
theorem Resolution.event_renamed (kept : Resolution) (a b : Operation) (rule : Rule) :
    kept.event (a.renamed ρ) (b.renamed ρ) rule = (kept.event a b rule).renamed ρ := by
  cases kept <;> rfl

/-! ## Maps under other names -/

section Entries

variable {α β : Type} {f : String → String} {g : α → β}

/-- A map with other names for its keys and other values. -/
def renamedEntries (f : String → String) (g : α → β) (m : Std.ExtTreeMap String α) :
    Std.ExtTreeMap String β :=
  .ofList (m.toList.map fun e => (f e.1, g e.2))

/-- Under its new name a key has the new form of its value. -/
theorem getElem?_renamedEntries (hf : Function.Injective f) (m : Std.ExtTreeMap String α)
    (k : String) : (renamedEntries f g m)[f k]? = m[k]?.map g := by
  cases hk : m[k]? with
  | some x =>
    have here : (k, x) ∈ m.toList := Std.ExtTreeMap.mem_toList_iff_getElem?_eq_some.mpr hk
    refine Std.ExtTreeMap.getElem?_ofList_of_mem (k := f k) Std.compare_self ?_
      (List.mem_map.mpr ⟨_, here, rfl⟩)
    -- different keys have different new names
    rw [List.pairwise_map]
    refine Std.ExtTreeMap.distinct_keys_toList.imp fun apart same => apart ?_
    rw [Std.compare_eq_iff_eq] at same ⊢
    exact hf same
  | none =>
    refine Std.ExtTreeMap.getElem?_ofList_of_contains_eq_false ?_
    rw [← Bool.not_eq_true, List.contains_iff_mem, List.map_map]
    intro there
    obtain ⟨⟨k', x⟩, mem, same⟩ := List.mem_map.mp there
    cases hf same
    rw [Std.ExtTreeMap.mem_toList_iff_getElem?_eq_some, hk] at mem
    cases mem

/-- What is no new name is no key. -/
theorem getElem?_renamedEntries_of_ne (m : Std.ExtTreeMap String α) {k' : String}
    (h : ∀ k, f k ≠ k') : (renamedEntries f g m)[k']? = none := by
  refine Std.ExtTreeMap.getElem?_ofList_of_contains_eq_false ?_
  rw [← Bool.not_eq_true, List.contains_iff_mem, List.map_map]
  intro there
  obtain ⟨e, -, same⟩ := List.mem_map.mp there
  exact h e.1 same

/-- No entries are none under new names. -/
theorem renamedEntries_empty :
    renamedEntries f g (∅ : Std.ExtTreeMap String α) = ∅ := by
  rw [renamedEntries, Std.ExtTreeMap.toList_eq_nil_iff.mpr rfl, List.map_nil,
    Std.ExtTreeMap.ofList_nil]

/-- Changing one value may come before or after the renaming. -/
theorem renamedEntries_alter (hf : Function.Injective f) (m : Std.ExtTreeMap String α)
    (k : String) {change : Option α → Option α} {change' : Option β → Option β}
    (h : ∀ x, (change x).map g = change' (x.map g)) :
    renamedEntries f g (m.alter k change) = (renamedEntries f g m).alter (f k) change' := by
  apply Std.ExtTreeMap.ext_getElem?
  intro k'
  rw [Std.ExtTreeMap.getElem?_alter]
  by_cases named : ∃ j, f j = k'
  · obtain ⟨j, rfl⟩ := named
    rw [getElem?_renamedEntries hf, getElem?_renamedEntries hf, getElem?_renamedEntries hf,
      Std.ExtTreeMap.getElem?_alter]
    simp only [Std.compare_eq_iff_eq, hf.eq_iff]
    split
    · exact h m[k]?
    · rfl
  · have unnamed : ∀ j, f j ≠ k' := fun j same => named ⟨j, same⟩
    rw [getElem?_renamedEntries_of_ne _ unnamed, getElem?_renamedEntries_of_ne _ unnamed,
      if_neg (by simpa only [Std.compare_eq_iff_eq] using unnamed k)]

end Entries

/-! ## Replicas -/

/-- Properties with other names and values. -/
def Properties.renamed (held : Properties) : Properties :=
  renamedEntries ρ.property ρ.value held

namespace Replica

/-- A replica with other names. -/
def renamed (s : Replica) : Replica :=
  ⟨renamedEntries ρ.task (Properties.renamed ρ) s.tasks⟩

/-- Under its new name a task has its properties under their new names. -/
theorem properties?_renamed (s : Replica) (t : String) :
    (s.renamed ρ).properties? (ρ.task t) = (s.properties? t).map (Properties.renamed ρ) :=
  getElem?_renamedEntries ρ.task_injective s.tasks t

/-- A task is there under its new name just in case it was there under the old one. -/
theorem holds_renamed (s : Replica) (t : String) :
    (s.renamed ρ).holds (ρ.task t) = s.holds t := by
  rw [holds_eq_isSome, holds_eq_isSome, properties?_renamed, Option.isSome_map]

/-- A property has under its new name the new name of its value. -/
theorem value?_renamed (s : Replica) (t p : String) :
    (s.renamed ρ).value? (ρ.task t) (ρ.property p) = (s.value? t p).map ρ.value := by
  rw [value?, value?, properties?_renamed]
  cases s.properties? t with
  | none => rfl
  | some held => exact getElem?_renamedEntries ρ.property_injective held p

/-- What an operation makes of its task does not depend on the names in it. -/
theorem act_renamed (op : Operation) (held : Option Properties) :
    (op.act held).map (Properties.renamed ρ) =
      (op.renamed ρ).act (held.map (Properties.renamed ρ)) := by
  cases op with
  | create t =>
    cases held with
    | none => exact congrArg some renamedEntries_empty
    | some held => rfl
  | delete t => rfl
  | update t p v i =>
    cases held with
    | none => rfl
    | some held =>
      exact congrArg some (renamedEntries_alter ρ.property_injective held p fun _ => rfl)

/-- Applying and renaming can be done in either order. -/
theorem renamed_apply (s : Replica) (op : Operation) :
    (s.apply op).renamed ρ = (s.renamed ρ).apply (op.renamed ρ) := by
  rw [apply, apply, renamed, renamed, op.task_renamed]
  exact congrArg mk (renamedEntries_alter ρ.task_injective s.tasks op.task (act_renamed ρ op))

end Replica

/-- **Names are opaque, and of times only the order counts.** Two operations under other names are
transformed to what they were transformed to before, under the other names, and the log names the
same rule, as long as the order of their times is kept. A replica under other names holds the same
tasks with the same values as before, each under its other name, and an operation under other names
brings it to what the operation brought it to before. -/
theorem renamed_alike :
    (∀ times, ρ.Ordered times → ∀ a b : Operation, a.MadeWithin times → b.MadeWithin times →
      transform (a.renamed ρ) (b.renamed ρ) = Transformed.renamed ρ (transform a b) ∧
      transformEvents (a.renamed ρ) (b.renamed ρ) =
        (transformEvents a b).map (Event.renamed ρ) ∧
      (transformEvents (a.renamed ρ) (b.renamed ρ)).map Event.ruleName? =
        (transformEvents a b).map Event.ruleName?) ∧
    ∀ s : Replica,
      (∀ t, (s.renamed ρ).holds (ρ.task t) = s.holds t) ∧
      (∀ t p, (s.renamed ρ).value? (ρ.task t) (ρ.property p) = (s.value? t p).map ρ.value) ∧
      ∀ op : Operation, (s.apply op).renamed ρ = (s.renamed ρ).apply (op.renamed ρ) := by
  refine ⟨fun times ordered a b ha hb => ?_, fun s => ⟨?_, ?_, ?_⟩⟩
  · have same := resolve_renamed ρ ordered ha hb
    refine ⟨?_, ?_, ?_⟩
    · rw [transform, same, Resolution.outputs_renamed]
      rfl
    · rw [transformEvents, same, Resolution.event_renamed]
      rfl
    · rw [ruleName?_transformEvents, ruleName?_transformEvents, same]
  · exact s.holds_renamed ρ
  · exact s.value?_renamed ρ
  · exact s.renamed_apply ρ

/-- Puts a text in front of every name, and moves every time to the end of the range on its side. -/
def Renaming.toEnds (front : String) : Renaming where
  task := (front ++ ·)
  property := (front ++ ·)
  value := (front ++ ·)
  time i := if i < 0 then Int64.minValue else Int64.maxValue
  task_injective _ _ := (String.append_right_inj front).mp
  property_injective _ _ := (String.append_right_inj front).mp
  value_injective _ _ := (String.append_right_inj front).mp

/-- An empty value and the value `null`, a second apart: under other names they are as far apart as
times can be, and the later one still wins. -/
theorem renamed_alike_to_ends :
    let ρ := Renaming.toEnds "null"
    let a := Operation.update "" "due" (some "") (-1)
    let b := Operation.update "" "due" (some "null") 0
    ρ.Ordered {-1, 0} ∧ a.MadeWithin {-1, 0} ∧ b.MadeWithin {-1, 0} ∧
      a.renamed ρ = .update "null" "nulldue" (some "null") Int64.minValue ∧
      transform (a.renamed ρ) (b.renamed ρ) = Transformed.renamed ρ (transform a b) ∧
      Transformed.renamed ρ (transform a b) =
        (none, some (.update "null" "nulldue" (some "nullnull") Int64.maxValue)) := by
  intro ρ a b
  have ordered : ρ.Ordered {-1, 0} := by
    rintro i (rfl | rfl) j (rfl | rfl) h <;> revert h <;> decide
  have ha : a.MadeWithin {-1, 0} := .inl rfl
  have hb : b.MadeWithin {-1, 0} := .inr rfl
  exact ⟨ordered, ha, hb, by decide, ((renamed_alike ρ).1 {-1, 0} ordered a b ha hb).1, by decide⟩

end TaskReplicas
