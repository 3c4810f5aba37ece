import Mathlib.Tactic.Simproc.ExistsAndEq
import TaskReplicas.Operation.Fields

/-!
# Fields that entries give

The entries of an object are read one by one into one record. What they come to depends on each key
alone: the kind is what is given under its key (`foldlM_takenAdd_eq_ok_iff`), and each field of an
operation is what is given under its name (`ofEntries_eq_ok_iff`), by at most one entry
(`Fields.fillAll_eq_some_iff`). All of this is about the outlines of the values.
-/

set_option autoImplicit false

namespace TaskReplicas

open Json (Outline)

/-! ## Entries by their keys -/

/-- The values that the entries of an object give under a key, in their order. -/
def given {α : Type} (key : String) (entries : List (String × α)) : List α :=
  (entries.filter fun e => e.1 = key).map Prod.snd

section Given

variable {α β : Type} {key : String} {e : String × α} {entries : List (String × α)}

/-- An entry with the key gives its value in front of the others. -/
theorem given_cons_self (h : e.1 = key) : given key (e :: entries) = e.2 :: given key entries := by
  rw [given, List.filter_cons_of_pos (by simpa using h), List.map_cons, given]

/-- An entry with another key gives nothing. -/
theorem given_cons_of_ne (h : e.1 ≠ key) : given key (e :: entries) = given key entries := by
  rw [given, List.filter_cons_of_neg (by simpa using h), given]

/-- What is made of all values is made of those that are given. -/
theorem given_map (f : α → β) :
    given key (entries.map fun e => (e.1, f e.2)) = (given key entries).map f := by
  rw [given, given, List.filter_map, List.map_map, List.map_map]
  rfl

/-- Dropping the entries with one key drops nothing that is given under another. -/
theorem given_filter_ne {other : String} (h : key ≠ other) :
    given key (entries.filter fun e => e.1 ≠ other) = given key entries := by
  rw [given, given, List.filter_filter]
  congr 2
  funext e
  by_cases he : e.1 = key
  · simp [he, h]
  · simp [he]

end Given

/-! ## Readers -/

/-- A kind is found by its name and by no other. -/
theorem Kind.ofName?_eq_some_iff {name : String} {kind : Kind} :
    Kind.ofName? name = some kind ↔ name = kind.name := by
  constructor
  · intro h
    rw [Kind.ofName?] at h
    have named := List.find?_some h
    exact (eq_of_beq named).symm
  · rintro rfl
    cases kind <;> rfl

/-- A kind is read from a string that is its name, and from nothing else. -/
theorem readKind_eq_ok_iff {o : Outline} {kind : Kind} :
    readKind o = .ok kind ↔ o = .string kind.name := by
  cases o with
  | string s =>
    rw [Outline.string.injEq, ← Kind.ofName?_eq_some_iff]
    cases h : Kind.ofName? s <;> simp [readKind, h]
  | _ => simp [readKind]

/-- A text is read from a string, and from nothing else. -/
theorem readText_eq_ok_iff {o : Outline} {s : String} : readText o = .ok s ↔ o = .string s := by
  cases o <;> simp [readText]

/-- A text that may be absent is read from a string or from null, and from nothing else. -/
theorem readOptionalText_eq_ok_iff {o : Outline} {v : Option String} :
    readOptionalText o = .ok v ↔ o = v.elim .null .string := by
  cases o <;> cases v <;> simp [readOptionalText, readText, Except.map]

/-- A field that is required is there just in case it is known. -/
theorem require_eq_ok_iff {α : Type} {name : String} {known : Option α} {a : α} :
    Fields.require name known = .ok a ↔ known = some a := by
  cases known <;> simp [Fields.require]

/-! ## One field -/

namespace Fields

/-- Fills a field with the values that are given for it. -/
def fillAll {α : Type} (name : String) (read : Outline → Except Mismatch α) (known : Option α)
    (values : List Outline) : Except Mismatch (Option α) :=
  values.foldlM (fun known found => fill name known (read found)) known

section Fill

variable {α : Type} {name : String} {read : Outline → Except Mismatch α}

/-- Where no value is left, a field is what is known of it. -/
theorem fillAll_nil {known filled : Option α} :
    fillAll name read known [] = .ok filled ↔ filled = known := by
  simp [fillAll, pure, Except.pure, eq_comm]

/-- A field is filled value by value. -/
theorem fillAll_cons {known filled : Option α} {found : Outline} {values : List Outline} :
    fillAll name read known (found :: values) = .ok filled ↔
      ∃ a, fill name known (read found) = .ok a ∧ fillAll name read a values = .ok filled :=
  bind_eq_ok_iff

/-- A field is not filled twice. -/
theorem fillAll_some {a : α} {values : List Outline} {filled : Option α} :
    fillAll name read (some a) values = .ok filled ↔ values = [] ∧ filled = some a := by
  cases values with
  | nil => simp [fillAll_nil]
  | cons found values => simp [fillAll_cons, fill]

/-- A field stays empty just in case no value is given. -/
theorem fillAll_eq_none_iff {values : List Outline} :
    fillAll name read none values = .ok none ↔ values = [] := by
  cases values with
  | nil => simp [fillAll_nil]
  | cons found values => simp [fillAll_cons, fill, map_eq_ok_iff, fillAll_some]

/-- A field is filled just in case one value is given, and that one can be read. -/
theorem fillAll_eq_some_iff {values : List Outline} {a : α} :
    fillAll name read none values = .ok (some a) ↔
      ∃ found, values = [found] ∧ read found = .ok a := by
  cases values with
  | nil => simp [fillAll_nil]
  | cons found values =>
    simp only [fillAll_cons, fill, map_eq_ok_iff, List.cons.injEq]
    constructor
    · rintro ⟨_, ⟨b, hb, rfl⟩, filled⟩
      obtain ⟨rfl, same⟩ := fillAll_some.mp filled
      cases same
      exact ⟨found, ⟨rfl, rfl⟩, hb⟩
    · rintro ⟨_, ⟨rfl, rfl⟩, ha⟩
      exact ⟨some a, ⟨a, ha, rfl⟩, fillAll_some.mpr ⟨rfl, rfl⟩⟩

end Fill

end Fields

/-! ## The kind and the other entries -/

/-- What has been taken of an object: the kind, and the other entries, the last one first. -/
abbrev Taken := Option Kind × List (String × Outline)

/-- Takes an entry of an object. -/
def Taken.add (s : Taken) (e : String × Outline) : Except Mismatch Taken :=
  if e.1 = "kind" then (Fields.fill "kind" s.1 (readKind e.2)).map (·, s.2)
  else .ok (s.1, e :: s.2)

/-- The operation that has been taken when the object closes. -/
def Taken.close : Taken → Except Mismatch Operation
  | (some kind, entries) => Operation.ofEntries kind entries.reverse
  | (none, _) => .error (.missingField "kind")

/-- The operation that the entries of an object describe. -/
def Operation.ofObject (entries : List (String × Outline)) : Except Mismatch Operation := do
  let taken ← entries.foldlM Taken.add (none, [])
  taken.close

/-- Of the entries of an object, those under the kind's key give the kind, and the others are
kept. -/
theorem foldlM_takenAdd_eq_ok_iff {es : List (String × Outline)} {s t : Taken} :
    es.foldlM Taken.add s = .ok t ↔
      Fields.fillAll "kind" readKind s.1 (given "kind" es) = .ok t.1 ∧
        t.2 = (es.filter fun e => e.1 ≠ "kind").reverse ++ s.2 := by
  induction es generalizing s with
  | nil =>
    rw [List.foldlM_nil, given, List.filter_nil, List.map_nil, Fields.fillAll_nil]
    simp [pure, Except.pure, Prod.ext_iff, eq_comm]
  | cons e es ih =>
    rw [List.foldlM_cons, bind_eq_ok_iff, Taken.add]
    by_cases named : e.1 = "kind"
    · rw [if_pos named, given_cons_self named, Fields.fillAll_cons,
        List.filter_cons_of_neg (by simpa using named)]
      constructor
      · rintro ⟨u, hu, taken⟩
        obtain ⟨kind, filled, rfl⟩ := map_eq_ok_iff.mp hu
        obtain ⟨later, kept⟩ := ih.mp taken
        exact ⟨⟨kind, filled, later⟩, kept⟩
      · rintro ⟨⟨kind, filled, later⟩, kept⟩
        exact ⟨(kind, s.2), map_eq_ok_iff.mpr ⟨kind, filled, rfl⟩, ih.mpr ⟨later, kept⟩⟩
    · rw [if_neg named, given_cons_of_ne named, List.filter_cons_of_pos (by simpa using named)]
      simp [ih]

/-- The entries of an object describe an operation when they give its kind once and the others
describe an operation of that kind. -/
theorem ofObject_eq_ok_iff {es : List (String × Outline)} {op : Operation} :
    Operation.ofObject es = .ok op ↔ ∃ kind : Kind, given "kind" es = [.string kind.name] ∧
      Operation.ofEntries kind (es.filter fun e => e.1 ≠ "kind") = .ok op := by
  rw [Operation.ofObject, bind_eq_ok_iff]
  constructor
  · rintro ⟨⟨kind, entries⟩, taken, closed⟩
    obtain ⟨filled, kept⟩ := foldlM_takenAdd_eq_ok_iff.mp taken
    cases kind with
    | none => cases closed
    | some kind =>
      obtain ⟨found, values, named⟩ := Fields.fillAll_eq_some_iff.mp filled
      simp only [List.append_nil] at kept
      refine ⟨kind, by rw [values, readKind_eq_ok_iff.mp named], ?_⟩
      rw [Taken.close, kept, List.reverse_reverse] at closed
      exact closed
  · rintro ⟨kind, values, described⟩
    refine ⟨(some kind, (es.filter fun e => e.1 ≠ "kind").reverse), ?_, ?_⟩
    · refine foldlM_takenAdd_eq_ok_iff.mpr ⟨?_, by simp⟩
      exact Fields.fillAll_eq_some_iff.mpr ⟨_, values, readKind_eq_ok_iff.mpr rfl⟩
    · rw [Taken.close, List.reverse_reverse]
      exact described

/-! ## The fields of an operation -/

/-- The values that entries give for a field of an operation of a kind: none where the kind has no
such field. -/
def Kind.valuesOf (kind : Kind) (name : String) (es : List (String × Outline)) : List Outline :=
  if name ∈ kind.fieldNames then given name es else []

namespace Fields

/-- What an entry does to one field of an operation of a kind. -/
def fillFrom {α : Type} (kind : Kind) (name : String) (read : Outline → Except Mismatch α)
    (known : Option α) (e : String × Outline) : Except Mismatch (Option α) :=
  if e.1 = name ∧ name ∈ kind.fieldNames then fill name known (read e.2) else .ok known

/-- Entries fill a field with the values that they give for it. -/
theorem foldlM_fillFrom {α : Type} {kind : Kind} {name : String}
    {read : Outline → Except Mismatch α} {known : Option α} {es : List (String × Outline)} :
    es.foldlM (fillFrom kind name read) known =
      fillAll name read known (kind.valuesOf name es) := by
  by_cases has : name ∈ kind.fieldNames
  · rw [Kind.valuesOf, if_pos has]
    induction es generalizing known with
    | nil => rfl
    | cons e es ih =>
      by_cases named : e.1 = name
      · rw [given_cons_self named, List.foldlM_cons, fillFrom, if_pos ⟨named, has⟩]
        simp only [ih]
        rfl
      · rw [given_cons_of_ne named, List.foldlM_cons, fillFrom, if_neg fun h => named h.1]
        exact ih
  · rw [Kind.valuesOf, if_neg has]
    induction es with
    | nil => rfl
    | cons e es ih =>
      rw [List.foldlM_cons, fillFrom, if_neg fun h => has h.2]
      exact ih

/-- An entry does to each field what it does to it alone. -/
theorem add_eq_ok_iff {kind : Kind} {e : String × Outline} {f g : Fields} :
    add kind f e = .ok g ↔
      fillFrom kind "task_id" readText f.task e = .ok g.task ∧
        fillFrom kind "property" readText f.property e = .ok g.property ∧
        fillFrom kind "value" readOptionalText f.value e = .ok g.value ∧
        fillFrom kind "timestamp" readTimestamp f.timestamp e = .ok g.timestamp := by
  obtain ⟨name, found⟩ := e
  obtain ⟨task, property, value, timestamp⟩ := f
  obtain ⟨task', property', value', timestamp'⟩ := g
  by_cases has : name ∈ kind.fieldNames
  · -- the name is that of one field, and the others are left alone
    by_cases task : name = "task_id"
    · subst task
      simp [add, fillFrom, has, map_eq_ok_iff]
    by_cases property : name = "property"
    · subst property
      simp [add, fillFrom, has, map_eq_ok_iff, and_left_comm]
    by_cases value : name = "value"
    · subst value
      simp [add, fillFrom, has, map_eq_ok_iff, and_left_comm]
    have timestamp : name = "timestamp" := by
      cases kind <;> simp_all [Kind.fieldNames]
    subst timestamp
    simp [add, fillFrom, has, map_eq_ok_iff, and_left_comm, and_comm, and_assoc]
  · have skipped {α : Type} (other : String) (read : Outline → Except Mismatch α)
        (known : Option α) : fillFrom kind other read known (name, found) = .ok known := by
      rw [fillFrom, if_neg]
      rintro ⟨rfl, mem⟩
      exact has mem
    simp [add, has, skipped]

/-- Entries do to each field what they do to it alone. -/
theorem foldlM_add_eq_ok_iff {kind : Kind} {es : List (String × Outline)} {f g : Fields} :
    es.foldlM (add kind) f = .ok g ↔
      es.foldlM (fillFrom kind "task_id" readText) f.task = .ok g.task ∧
        es.foldlM (fillFrom kind "property" readText) f.property = .ok g.property ∧
        es.foldlM (fillFrom kind "value" readOptionalText) f.value = .ok g.value ∧
        es.foldlM (fillFrom kind "timestamp" readTimestamp) f.timestamp = .ok g.timestamp := by
  induction es generalizing f with
  | nil =>
    obtain ⟨task, property, value, timestamp⟩ := f
    obtain ⟨task', property', value', timestamp'⟩ := g
    simp [pure, Except.pure]
  | cons e es ih =>
    simp only [List.foldlM_cons, bind_eq_ok_iff, add_eq_ok_iff, ih]
    constructor
    · rintro ⟨f', ⟨task, property, value, timestamp⟩, task', property', value', timestamp'⟩
      exact ⟨⟨_, task, task'⟩, ⟨_, property, property'⟩, ⟨_, value, value'⟩,
        ⟨_, timestamp, timestamp'⟩⟩
    · rintro ⟨⟨t, task, task'⟩, ⟨p, property, property'⟩, ⟨v, value, value'⟩,
        ⟨s, timestamp, timestamp'⟩⟩
      exact ⟨⟨t, p, v, s⟩, ⟨task, property, value, timestamp⟩, task', property', value',
        timestamp'⟩

/-- The fields that entries give to an operation of a kind, each filled with what is given for it
alone. -/
structure Filled (kind : Kind) (es : List (String × Outline)) (g : Fields) : Prop where
  task : fillAll "task_id" readText none (kind.valuesOf "task_id" es) = .ok g.task
  property : fillAll "property" readText none (kind.valuesOf "property" es) = .ok g.property
  value : fillAll "value" readOptionalText none (kind.valuesOf "value" es) = .ok g.value
  timestamp :
    fillAll "timestamp" readTimestamp none (kind.valuesOf "timestamp" es) = .ok g.timestamp

end Fields

/-- Entries describe an operation of a kind when the fields that they give are those of one. -/
theorem ofEntries_eq_ok_iff {kind : Kind} {es : List (String × Outline)} {op : Operation} :
    Operation.ofEntries kind es = .ok op ↔
      ∃ g, Fields.Filled kind es g ∧ g.toOperation kind = .ok op := by
  rw [Operation.ofEntries, bind_eq_ok_iff]
  simp only [Fields.foldlM_add_eq_ok_iff, Fields.foldlM_fillFrom]
  constructor
  · rintro ⟨g, ⟨task, property, value, timestamp⟩, made⟩
    exact ⟨g, ⟨task, property, value, timestamp⟩, made⟩
  · rintro ⟨g, ⟨task, property, value, timestamp⟩, made⟩
    exact ⟨g, ⟨task, property, value, timestamp⟩, made⟩

/-- The fields of a create are its task. -/
theorem toOperation_create_eq_ok_iff {g : Fields} {op : Operation} :
    g.toOperation .create = .ok op ↔ ∃ t, g.task = some t ∧ op = .create t := by
  rw [Fields.toOperation, bind_eq_ok_iff]
  simp [require_eq_ok_iff, pure, Except.pure, @eq_comm _ op]

/-- The fields of a delete are its task. -/
theorem toOperation_delete_eq_ok_iff {g : Fields} {op : Operation} :
    g.toOperation .delete = .ok op ↔ ∃ t, g.task = some t ∧ op = .delete t := by
  rw [Fields.toOperation, bind_eq_ok_iff]
  simp [require_eq_ok_iff, pure, Except.pure, @eq_comm _ op]

/-- The fields of an update are all four, of which the value may be left out. -/
theorem toOperation_update_eq_ok_iff {g : Fields} {op : Operation} :
    g.toOperation .update = .ok op ↔ ∃ t p s, g.task = some t ∧ g.property = some p ∧
      g.timestamp = some s ∧ op = .update t p (g.value.getD none) s := by
  simp only [Fields.toOperation, bind_eq_ok_iff, require_eq_ok_iff]
  constructor
  · rintro ⟨t, task, p, property, s, timestamp, same⟩
    cases same
    exact ⟨t, p, s, task, property, timestamp, rfl⟩
  · rintro ⟨t, p, s, task, property, timestamp, rfl⟩
    exact ⟨t, task, p, property, s, timestamp, rfl⟩

end TaskReplicas
