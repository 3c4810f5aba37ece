import TaskReplicas.Proofs.GivenFields
import TaskReplicas.Proofs.JsonValues

/-!
# Which objects are operations

An object is read entry by entry, and each value is taken as what it shows from outside
(`Reading.reads_entry`); what is nested in it is passed over. So every text of an object is read as
what the outlines of its entries come to (`decode_of_spelled`), and that is the operation that
`Operation.DescribedBy` says: the kind and the fields of the kind are given as often as they must,
each with a value of its type, and no other entry counts.
-/

set_option autoImplicit false

namespace TaskReplicas

open Json (Outline Token Nesting Bracket Place Value Literal Numeral Lexeme Spelled)

/-! ## Reading the entries -/

/-- What the entries of an object show. -/
def outlines (entries : List (String × Value)) : List (String × Outline) :=
  entries.map fun e => (e.1, e.2.outline)

namespace Reading

variable {room : Nat} {kind : Option Kind} {entries : List (String × Outline)}

/-- What leads from one place in a value to another is passed over. -/
theorem reads_passed {key : String} {o : Outline} {n m : Nesting} {ts : List Token}
    (h : n.Passes ts m) (us : List Token) :
    readTokens (next room) (.inObject kind entries key ⟨o, n⟩) (ts ++ us) =
      readTokens (next room) (.inObject kind entries key ⟨o, m⟩) us := by
  induction h with
  | nil => rfl
  | cons step _ ih =>
    rw [List.cons_append, readTokens, next, passOver, step]
    exact ih

/-- Under any key but the kind's a value is taken as what it shows. -/
theorem reads_value {key : String} (other : key ≠ "kind") {v : Value} (hd : v.depth ≤ room)
    (us : List Token) :
    readTokens (next room) (.object kind entries .entry key) (v.tokens ++ us) =
      readTokens (next room) (.object kind ((key, v.outline) :: entries) .entryEnd "") us := by
  cases hb : bracket? v.outline with
  | none =>
    rw [Value.tokens_plain hb, List.singleton_append, readTokens, next, nextInObject, takeEntry,
      if_neg other, valueOf_token hb]
    rfl
  | some b =>
    obtain ⟨pos, inside, split, passes⟩ := Value.tokens_bracketed hb
    obtain ⟨room, rfl⟩ := Nat.exists_eq_succ_of_ne_zero (Nat.pos_iff_ne_zero.mp
      (Nat.lt_of_lt_of_le pos hd))
    obtain ⟨place, leads, closes⟩ := passes [] room hd
    have opens : valueOf (room + 1) v.outline.token = .ok (.inr ⟨v.outline, .opened b room⟩) := by
      rw [valueOf, v.outline.ofToken?_token]
      simp only [hb]
    rw [split, List.append_assoc, List.cons_append, readTokens, next, nextInObject, takeEntry,
      if_neg other, opens]
    refine (reads_passed leads _).trans ?_
    rw [List.singleton_append, readTokens, next, passOver, closes]
    rfl

/-- A kind is read from the token of an outline as it is from the outline. -/
theorem kindOf_token (o : Outline) : kindOf o.token =
    match readKind o with
    | .ok kind => .ok kind
    | .error m => .error (.mismatch m) := by
  cases o <;> rfl

/-- Under its key the kind is read where it stands. -/
theorem reads_kind (v : Value) (us : List Token) :
    readTokens (next room) (.object none entries .entry "kind") (v.tokens ++ us) =
      match readKind v.outline with
      | .ok kind => readTokens (next room) (.object (some kind) entries .entryEnd "") us
      | .error m => .error (.mismatch m) := by
  cases hk : readKind v.outline with
  | ok kind =>
    have plain : bracket? v.outline = none := by
      rw [readKind_eq_ok_iff.mp hk]
      rfl
    rw [Value.tokens_plain plain, List.singleton_append, readTokens, next, nextInObject, takeEntry,
      if_pos rfl, kindOf_token, hk]
    rfl
  | error m =>
    obtain ⟨ts, split⟩ := v.tokens_eq_cons
    rw [split, List.cons_append, readTokens, next, nextInObject, takeEntry, if_pos rfl,
      kindOf_token, hk]

/-- An entry is taken as what its value shows. -/
theorem reads_entry {e : String × Value} (hd : e.2.depth ≤ room) {place : Place}
    (hp : place = .keyOrClose ∨ place = .key) (us : List Token) :
    readTokens (next room) (.object kind entries place "") (Value.entryTokens e ++ us) =
      match Taken.add (kind, entries) (e.1, e.2.outline) with
      | .ok s => readTokens (next room) (.object s.1 s.2 .entryEnd "") us
      | .error m => .error (.mismatch m) := by
  have key : next room (.object kind entries place "") (.string e.1) =
      takeKey kind entries (.string e.1) := by
    rcases hp with rfl | rfl <;> rfl
  rw [Value.entryTokens, List.cons_append, List.cons_append, readTokens, key]
  by_cases named : e.1 = "kind"
  · rw [Taken.add, if_pos named, takeKey]
    cases kind with
    | some kind =>
      rw [if_pos ⟨named, rfl⟩]
      rfl
    | none =>
      rw [if_neg (by simp), named]
      refine (reads_kind e.2 us).trans ?_
      cases readKind e.2.outline <;> rfl
  · rw [Taken.add, if_neg named, takeKey, if_neg fun h => named h.1]
    exact reads_value named hd us

/-- The entries behind the first are taken one by one, and then the object closes. -/
theorem reads_others {es : List (String × Value)} (hd : ∀ e ∈ es, e.2.depth ≤ room) (s : Taken) :
    readTokens (next room) (.object s.1 s.2 .entryEnd "")
        ((es.map Value.entryTokens).flatMap (Token.comma :: ·) ++ [.closeObject]) =
      conclude ((outlines es).foldlM Taken.add s >>= Taken.close) := by
  induction es generalizing s with
  | nil =>
    refine reads_finish ?_
    obtain ⟨kind, entries⟩ := s
    cases kind <;> rfl
  | cons e es ih =>
    have first := hd e List.mem_cons_self
    have later := ih fun f hf => hd f (List.mem_cons_of_mem _ hf)
    rw [List.map_cons, List.flatMap_cons, List.append_assoc, List.cons_append, readTokens]
    show readTokens (next room) (.object s.1 s.2 .key "") _ = _
    rw [reads_entry first (.inr rfl), outlines, List.map_cons, List.foldlM_cons]
    cases Taken.add s (e.1, e.2.outline) with
    | error m => rfl
    | ok s => exact later s

/-- **An object is the operation that its entries describe by what they show.** -/
theorem reads_object_value {es : List (String × Value)} (hd : ∀ e ∈ es, e.2.depth ≤ room) :
    readTokens (next room) .start (Value.object es).tokens =
      conclude (Operation.ofObject (outlines es)) := by
  rw [Value.tokens_object, List.cons_append, readTokens]
  show readTokens (next room) (.object none [] .keyOrClose "") _ = _
  -- an object without entries closes at once; in any other the first has no comma before it
  cases es with
  | nil => exact reads_finish rfl
  | cons e es =>
    have first := hd e List.mem_cons_self
    have others := reads_others fun f hf => hd f (List.mem_cons_of_mem _ hf)
    rw [List.map_cons, intercalate_comma, List.append_assoc, reads_entry first (.inl rfl),
      Operation.ofObject, outlines, List.map_cons, List.foldlM_cons]
    cases Taken.add (none, []) (e.1, e.2.outline) with
    | error m => rfl
    | ok s => exact others s

end Reading

/-! ## Values of fields -/

/-- Only a string looks like a string. -/
theorem map_outline_eq_string_iff {values : List Value} {s : String} :
    values.map Value.outline = [.string s] ↔ values = [.string s] := by
  rw [List.map_eq_singleton_iff]
  constructor
  · rintro ⟨v, rfl, shows⟩
    cases v with
    | string t =>
      cases shows
      rfl
    | _ => cases shows
  · rintro rfl
    exact ⟨_, rfl, rfl⟩

/-- Only a string looks like a string, and only null like null. -/
theorem map_outline_eq_optional_iff {values : List Value} {v : Option String} :
    values.map Value.outline = [v.elim .null .string] ↔ values = [v.elim .null .string] := by
  cases v with
  | some s => exact map_outline_eq_string_iff
  | none =>
    rw [List.map_eq_singleton_iff]
    constructor
    · rintro ⟨v, rfl, shows⟩
      cases v with
      | null => rfl
      | _ => cases shows
    · rintro h
      exact ⟨_, h, rfl⟩

/-- A literal is a timestamp when its numeral is an integer of 64 bits with a sign. -/
theorem readTimestamp_number_eq_ok_iff {l : Literal} {s : Timestamp} :
    readTimestamp (.number l.number) = .ok s ↔ l.numeral.integer? = some s.toInt := by
  constructor
  · intro h
    cases hn : l.number with
    | double bits => rw [hn] at h; cases h
    | integer n =>
      rw [hn, readTimestamp] at h
      obtain ⟨integer, low, -⟩ := Json.Numeral.number_eq_integer_iff.mp (hn ▸ l.denotes)
      split at h
      · next high =>
        cases h
        rw [integer, Int64.toInt_ofInt_of_le low high]
      · cases h
  · intro h
    have high : s.toInt < 2 ^ 63 := Int64.toInt_lt s
    have number := Json.Numeral.number_eq_integer_iff.mpr ⟨h, Int64.le_toInt s, by omega⟩
    rw [l.denotes] at number
    cases l with
    | mk numeral x denotes =>
      cases number
      exact Operation.readTimestamp_toInt s

/-- A field that is a text is filled by one string. -/
theorem fillAll_text_eq_some_iff {name : String} {values : List Value} {t : String} :
    Fields.fillAll name readText none (values.map Value.outline) = .ok (some t) ↔
      values = [.string t] := by
  rw [Fields.fillAll_eq_some_iff, ← map_outline_eq_string_iff]
  simp only [readText_eq_ok_iff, exists_eq_right]

/-! ## What the entries describe -/

/-- The operations that the entries of an object describe. The kind and each field that is needed
are given once; the value of an update may be missing. No other entry counts. -/
inductive Operation.DescribedBy (entries : List (String × Value)) : Operation → Prop
  | create {t : String} (kind : given "kind" entries = [.string "Create"])
    (task : given "task_id" entries = [.string t]) : DescribedBy entries (.create t)
  | delete {t : String} (kind : given "kind" entries = [.string "Delete"])
    (task : given "task_id" entries = [.string t]) : DescribedBy entries (.delete t)
  | update {t p : String} {v : Option String} {s : Timestamp} {l : Literal}
    (kind : given "kind" entries = [.string "Update"])
    (task : given "task_id" entries = [.string t])
    (property : given "property" entries = [.string p])
    (value : (given "value" entries = [] ∧ v = none) ∨
      given "value" entries = [v.elim .null .string])
    (timestamp : given "timestamp" entries = [.number l])
    (integer : l.numeral.integer? = some s.toInt) : DescribedBy entries (.update t p v s)

/-- The entries of an object that are kept for its operation. -/
def kept (entries : List (String × Value)) : List (String × Outline) :=
  (outlines entries).filter fun e => e.1 ≠ "kind"

section Kept

variable {entries : List (String × Value)} {op : Operation}

/-- What is kept gives the fields as the object does. -/
theorem valuesOf_kept {kind : Kind} {name : String} (has : name ∈ kind.fieldNames) :
    kind.valuesOf name (kept entries) = (given name entries).map Value.outline := by
  have other : name ≠ "kind" := by
    rintro rfl
    cases kind <;> simp [Kind.fieldNames] at has
  rw [Kind.valuesOf, if_pos has, kept, given_filter_ne other, outlines, given_map]

/-- Where the task is the only field, it is all that the entries have to give. -/
theorem ofEntries_task_iff {kind : Kind} {make : String → Operation}
    (only : kind.fieldNames = ["task_id"])
    (made : ∀ g : Fields, g.toOperation kind = .ok op ↔ ∃ t, g.task = some t ∧ op = make t) :
    Operation.ofEntries kind (kept entries) = .ok op ↔
      ∃ t, given "task_id" entries = [.string t] ∧ op = make t := by
  have values : kind.valuesOf "task_id" (kept entries) =
      (given "task_id" entries).map Value.outline := valuesOf_kept (by simp [only])
  have none {name : String} (h : name ≠ "task_id") : kind.valuesOf name (kept entries) = [] :=
    if_neg (by simpa [only] using h)
  rw [ofEntries_eq_ok_iff]
  constructor
  · rintro ⟨g, filled, done⟩
    obtain ⟨t, task, rfl⟩ := (made g).mp done
    have given := filled.task
    rw [values, task] at given
    exact ⟨t, fillAll_text_eq_some_iff.mp given, rfl⟩
  · rintro ⟨t, given, rfl⟩
    refine ⟨{ task := some t }, ⟨?_, ?_, ?_, ?_⟩, (made _).mpr ⟨t, rfl, rfl⟩⟩
    · rw [values]
      exact fillAll_text_eq_some_iff.mpr given
    all_goals rw [none (by decide), Fields.fillAll_nil]

/-- The value of an update may be missing. -/
theorem fillAll_value_iff {values : List Value} {v : Option String} :
    (∃ filled, Fields.fillAll "value" readOptionalText none (values.map Value.outline) =
      .ok filled ∧ filled.getD none = v) ↔
      (values = [] ∧ v = none) ∨ values = [v.elim .null .string] := by
  have some_iff (u : Option String) : Fields.fillAll "value" readOptionalText none
      (values.map Value.outline) = .ok (some u) ↔ values = [u.elim .null .string] := by
    rw [Fields.fillAll_eq_some_iff, ← map_outline_eq_optional_iff]
    simp only [readOptionalText_eq_ok_iff, exists_eq_right]
  constructor
  · rintro ⟨filled, fills, rfl⟩
    cases filled with
    | none =>
      rw [Fields.fillAll_eq_none_iff, List.map_eq_nil_iff] at fills
      exact .inl ⟨fills, rfl⟩
    | some u => exact .inr ((some_iff u).mp fills)
  · rintro (⟨rfl, rfl⟩ | given)
    · exact ⟨none, Fields.fillAll_eq_none_iff.mpr rfl, rfl⟩
    · exact ⟨some v, (some_iff v).mpr given, rfl⟩

/-- The time is filled by one number that is a whole one of 64 bits. -/
theorem fillAll_timestamp_iff {values : List Value} {s : Timestamp} :
    Fields.fillAll "timestamp" readTimestamp none (values.map Value.outline) = .ok (some s) ↔
      ∃ l : Literal, values = [.number l] ∧ l.numeral.integer? = some s.toInt := by
  simp only [Fields.fillAll_eq_some_iff, List.map_eq_singleton_iff]
  constructor
  · rintro ⟨_, ⟨v, rfl, rfl⟩, stamped⟩
    cases v with
    | number l => exact ⟨l, rfl, readTimestamp_number_eq_ok_iff.mp stamped⟩
    | _ => cases stamped
  · rintro ⟨l, rfl, integer⟩
    exact ⟨_, ⟨_, rfl, rfl⟩, readTimestamp_number_eq_ok_iff.mpr integer⟩

/-- The entries of an update are its task, its property and its time, and its value or none. -/
theorem ofEntries_update_iff : Operation.ofEntries .update (kept entries) = .ok op ↔
    ∃ t p v s, op = .update t p v s ∧ given "task_id" entries = [.string t] ∧
      given "property" entries = [.string p] ∧
      ((given "value" entries = [] ∧ v = none) ∨
        given "value" entries = [v.elim .null .string]) ∧
      ∃ l : Literal, given "timestamp" entries = [.number l] ∧
        l.numeral.integer? = some s.toInt := by
  have values {name : String} (has : name ∈ Kind.update.fieldNames) :
      Kind.update.valuesOf name (kept entries) = (given name entries).map Value.outline :=
    valuesOf_kept has
  simp only [ofEntries_eq_ok_iff, toOperation_update_eq_ok_iff]
  constructor
  · rintro ⟨g, filled, t, p, s, task, property, timestamp, rfl⟩
    have ⟨task', property', value', timestamp'⟩ := filled
    rw [values (by decide), task] at task'
    rw [values (by decide), property] at property'
    rw [values (by decide)] at value'
    rw [values (by decide), timestamp] at timestamp'
    exact ⟨t, p, g.value.getD none, s, rfl, fillAll_text_eq_some_iff.mp task',
      fillAll_text_eq_some_iff.mp property', fillAll_value_iff.mp ⟨g.value, value', rfl⟩,
      fillAll_timestamp_iff.mp timestamp'⟩
  · rintro ⟨t, p, v, s, rfl, task, property, value, timestamp⟩
    obtain ⟨filled, fills, rfl⟩ := fillAll_value_iff.mpr value
    refine ⟨⟨some t, some p, filled, some s⟩, ⟨?_, ?_, ?_, ?_⟩, t, p, s, rfl, rfl, rfl, rfl⟩
    · rw [values (by decide)]
      exact fillAll_text_eq_some_iff.mpr task
    · rw [values (by decide)]
      exact fillAll_text_eq_some_iff.mpr property
    · rw [values (by decide)]
      exact fills
    · rw [values (by decide)]
      exact fillAll_timestamp_iff.mpr timestamp

/-- What the entries of an object show describes the operation that they describe. -/
theorem ofObject_outlines_eq_ok_iff :
    Operation.ofObject (outlines entries) = .ok op ↔ op.DescribedBy entries := by
  have named (kind : Kind) : given "kind" (outlines entries) = [.string kind.name] ↔
      given "kind" entries = [.string kind.name] := by
    rw [outlines, given_map, map_outline_eq_string_iff]
  simp only [ofObject_eq_ok_iff, named]
  constructor
  · rintro ⟨kind, named, described⟩
    cases kind with
    | create =>
      obtain ⟨t, task, rfl⟩ :=
        (ofEntries_task_iff rfl fun _ => toOperation_create_eq_ok_iff).mp described
      exact .create named task
    | delete =>
      obtain ⟨t, task, rfl⟩ :=
        (ofEntries_task_iff rfl fun _ => toOperation_delete_eq_ok_iff).mp described
      exact .delete named task
    | update =>
      obtain ⟨t, p, v, s, rfl, task, property, value, l, timestamp, integer⟩ :=
        ofEntries_update_iff.mp described
      exact .update named task property value timestamp integer
  · rintro (⟨named, task⟩ | ⟨named, task⟩ |
      ⟨named, task, property, value, timestamp, integer⟩)
    · exact ⟨.create, named,
        (ofEntries_task_iff rfl fun _ => toOperation_create_eq_ok_iff).mpr ⟨_, task, rfl⟩⟩
    · exact ⟨.delete, named,
        (ofEntries_task_iff rfl fun _ => toOperation_delete_eq_ok_iff).mpr ⟨_, task, rfl⟩⟩
    · exact ⟨.update, named, ofEntries_update_iff.mpr
        ⟨_, _, _, _, rfl, task, property, value, _, timestamp, integer⟩⟩

end Kept

/-! ## Texts -/

/-- Any text of an object is read as the operation that its entries describe by what they show. -/
theorem decode_of_spelled {entries : List (String × Value)} {text : String}
    (spelled : (Value.object entries).SpelledBy text)
    (shallow : (Value.object entries).depth ≤ nestingLimit) :
    Operation.decode text = Reading.conclude (Operation.ofObject (outlines entries)) := by
  have fits : ∀ e ∈ entries, e.2.depth ≤ nestingLimit - 1 :=
    Value.depth_object_le_iff.mp shallow
  rw [Operation.decode, Value.scan_of_spelled spelled, Reading.reads_object_value fits]

/-- A reading ends with an operation just in case its fields make one. -/
theorem conclude_eq_ok_iff {result : Except Mismatch Operation} {op : Operation} :
    Reading.conclude result = .ok op ↔ result = .ok op := by
  cases result <;> simp [Reading.conclude]

/-- An operation is described by the entries under the kind's key and under the keys of its
fields. -/
theorem Operation.DescribedBy.of_agree {op : Operation} {entries others : List (String × Value)}
    (h : op.DescribedBy entries)
    (agree : ∀ key ∈ "kind" :: op.kind.fieldNames, given key others = given key entries) :
    op.DescribedBy others := by
  cases h with
  | create kind task =>
    simp only [Operation.kind, Kind.fieldNames, List.forall_mem_cons] at agree
    obtain ⟨kind', task', -⟩ := agree
    exact .create (kind'.trans kind) (task'.trans task)
  | delete kind task =>
    simp only [Operation.kind, Kind.fieldNames, List.forall_mem_cons] at agree
    obtain ⟨kind', task', -⟩ := agree
    exact .delete (kind'.trans kind) (task'.trans task)
  | update kind task property value timestamp integer =>
    simp only [Operation.kind, Kind.fieldNames, List.forall_mem_cons] at agree
    obtain ⟨kind', task', property', value', timestamp', -⟩ := agree
    exact .update (kind'.trans kind) (task'.trans task) (property'.trans property)
      (value' ▸ value) (timestamp'.trans timestamp) integer

/-- **Which objects are operations.** A text of an object is read as an operation exactly when the
entries describe it, and is refused for what it says when they describe none. Whatever else two
objects hold, and in whatever order, they are read as the same operation when they give the same
under the kind's key and under the keys of its fields. -/
theorem object_is_operation_iff {entries : List (String × Value)} {text : String}
    (spelled : (Value.object entries).SpelledBy text)
    (shallow : (Value.object entries).depth ≤ nestingLimit) :
    (∀ op, Operation.decode text = .ok op ↔ op.DescribedBy entries) ∧
    ((∀ op : Operation, ¬ op.DescribedBy entries) →
      ∃ m, Operation.decode text = .error (.mismatch m)) ∧
    ∀ (op : Operation) (others : List (String × Value)) (other : String),
      (Value.object others).SpelledBy other → (Value.object others).depth ≤ nestingLimit →
      (∀ key ∈ "kind" :: op.kind.fieldNames, given key others = given key entries) →
      Operation.decode text = .ok op → Operation.decode other = .ok op := by
  have described {entries : List (String × Value)} {text : String}
      (spelled : (Value.object entries).SpelledBy text)
      (shallow : (Value.object entries).depth ≤ nestingLimit) (op : Operation) :
      Operation.decode text = .ok op ↔ op.DescribedBy entries := by
    rw [decode_of_spelled spelled shallow, conclude_eq_ok_iff, ofObject_outlines_eq_ok_iff]
  refine ⟨described spelled shallow, fun none => ?_, ?_⟩
  · rw [decode_of_spelled spelled shallow]
    cases result : Operation.ofObject (outlines entries) with
    | ok op => exact absurd (ofObject_outlines_eq_ok_iff.mp result) (none op)
    | error m => exact ⟨m, rfl⟩
  · intro op others other spelled' shallow' agree decoded
    exact (described spelled' shallow' op).mpr
      (((described spelled shallow op).mp decoded).of_agree agree)

/-- An update whose entries stand in another order, with an escaped key, entries that are no fields
and a kind inside one of them, and the same update in its usual order. -/
theorem object_is_operation_iff_update :
    let minusZero : Literal := ⟨⟨true, 0, none, none⟩, .double 0x8000000000000000, rfl⟩
    let hundred : Literal :=
      ⟨⟨false, 1, none, some ⟨true, some false, ⟨['0', '2'], by simp, by simp⟩⟩⟩,
        .double 0x4059000000000000, by rfl⟩
    let stamp : Literal :=
      ⟨⟨true, 9223372036854775808, none, none⟩, .integer (-9223372036854775808), rfl⟩
    let entries : List (String × Value) :=
      [("x", .list [.object [("kind", .number minusZero)], .bool true]), ("task_id", .string "é/"),
        ("x", .number hundred), ("timestamp", .number stamp), ("property", .string "p"),
        ("kind", .string "Update")]
    let text := "\t\x7b\"x\" : [\x7b\"kind\":-0\x7d,true ],\"t\\u0061sk_id\":\"\\u00E9\\/\"," ++
      "\"x\":1E+02,\"timestamp\":-9223372036854775808,\"property\":\"p\",\"kind\":\"Update\"\x7d\n"
    let others : List (String × Value) :=
      [("kind", .string "Update"), ("task_id", .string "é/"), ("property", .string "p"),
        ("timestamp", .number stamp)]
    let other := "\x7b\"kind\":\"Update\",\"task_id\":\"é/\",\"property\":\"p\"," ++
      "\"timestamp\":-9223372036854775808\x7d"
    let op := Operation.update "é/" "p" none Int64.minValue
    ((Value.object entries).SpelledBy text ∧ (Value.object entries).depth ≤ nestingLimit ∧
      op.DescribedBy entries ∧ Operation.decode text = .ok op) ∧
    (Value.object others).SpelledBy other ∧ (Value.object others).depth ≤ nestingLimit ∧
      Operation.decode other = .ok op := by
  intro minusZero hundred stamp entries text others other op
  have plain {c : Char} (h : c ≠ '"' ∧ c ≠ '\\' ∧ 0x20 ≤ c.toNat) : Json.CharSpelled c [c] :=
    .plain h.1 h.2.1 h.2.2
  have unit {c : Char} {ds : List Char} (h : Json.UnitSpelled c.toNat ds) :
      Json.CharSpelled c ('\\' :: 'u' :: ds) := .unit h
  have key : (Lexeme.string "task_id").Spelled "\"t\\u0061sk_id\"".toList := by
    refine ⟨[['t'], "\\u0061".toList, ['s'], ['k'], ['_'], ['i'], ['d']], ?_, rfl⟩
    refine .cons (plain (by decide)) <| .cons (unit ?_) <| .cons (plain (by decide)) <|
      .cons (plain (by decide)) <| .cons (plain (by decide)) <| .cons (plain (by decide)) <|
      .cons (plain (by decide)) .nil
    exact .cons ⟨by decide, .inl rfl⟩ <| .cons ⟨by decide, .inl rfl⟩ <|
      .cons ⟨by decide, .inl rfl⟩ <| .cons ⟨by decide, .inl rfl⟩ .nil
  have task : (Lexeme.string "é/").Spelled "\"\\u00E9\\/\"".toList := by
    refine ⟨["\\u00E9".toList, "\\/".toList], ?_, rfl⟩
    refine .cons (unit ?_) <| .cons (.letter (by decide)) .nil
    exact .cons ⟨by decide, .inl rfl⟩ <| .cons ⟨by decide, .inl rfl⟩ <|
      .cons ⟨by decide, .inr rfl⟩ <| .cons ⟨by decide, .inl rfl⟩ .nil
  have zero : (Lexeme.number minusZero).Spelled "-0".toList := by
    show "-0".toList = minusZero.numeral.text
    decide +kernel
  have power : (Lexeme.number hundred).Spelled "1E+02".toList := by
    show "1E+02".toList = hundred.numeral.text
    decide +kernel
  have stamped : (Lexeme.number stamp).Spelled "-9223372036854775808".toList := by
    show "-9223372036854775808".toList = stamp.numeral.text
    decide +kernel
  have quoted := Lexeme.spelled_quote
  have by_pieces {v : Value} {xs : List Lexeme} {cs : List Char} {text : String}
      (row : v.lexemes = xs) (pieces : Spelled xs cs) (same : text.toList = cs) :
      v.SpelledBy text := by
    rw [Value.SpelledBy, row, same]
    exact pieces
  have spelled : (Value.object entries).SpelledBy text := by
    have row : (Value.object entries).lexemes =
        [.openObject, .string "x", .colon, .openList, .openObject, .string "kind", .colon,
          .number minusZero, .closeObject, .comma, .bool true, .closeList, .comma,
          .string "task_id", .colon, .string "é/", .comma, .string "x", .colon, .number hundred,
          .comma, .string "timestamp", .colon, .number stamp, .comma, .string "property", .colon,
          .string "p", .comma, .string "kind", .colon, .string "Update", .closeObject] := by
      simp [Value.lexemes, List.intercalate, entries]
    refine by_pieces row (.blank (c := '\t') rfl <| .written rfl <| .written (quoted "x") <|
      .blank (c := ' ') rfl <| .written rfl <| .blank (c := ' ') rfl <| .written rfl <|
      .written rfl <| .written (quoted "kind") <| .written rfl <| .lexeme zero <|
      .written rfl <| .written rfl <| .written rfl <| .blank (c := ' ') rfl <| .written rfl <|
      .written rfl <| .lexeme key <| .written rfl <| .lexeme task <| .written rfl <|
      .written (quoted "x") <| .written rfl <| .lexeme power <| .written rfl <|
      .written (quoted "timestamp") <| .written rfl <| .lexeme stamped <| .written rfl <|
      .written (quoted "property") <| .written rfl <| .written (quoted "p") <| .written rfl <|
      .written (quoted "kind") <| .written rfl <| .written (quoted "Update") <| .written rfl <|
      .blank (c := '\n') rfl .nil) ?_
    decide +kernel
  have spelled' : (Value.object others).SpelledBy other := by
    have row : (Value.object others).lexemes =
        [.openObject, .string "kind", .colon, .string "Update", .comma, .string "task_id", .colon,
          .string "é/", .comma, .string "property", .colon, .string "p", .comma,
          .string "timestamp", .colon, .number stamp, .closeObject] := by
      simp [Value.lexemes, List.intercalate, others]
    refine by_pieces row (.written rfl <| .written (quoted "kind") <| .written rfl <|
      .written (quoted "Update") <| .written rfl <| .written (quoted "task_id") <| .written rfl <|
      .written (quoted "é/") <| .written rfl <| .written (quoted "property") <| .written rfl <|
      .written (quoted "p") <| .written rfl <| .written (quoted "timestamp") <| .written rfl <|
      .lexeme stamped <| .written rfl .nil) ?_
    decide +kernel
  have shallow : (Value.object entries).depth ≤ nestingLimit := by
    simp [Value.depth, entries, nestingLimit]
  have shallow' : (Value.object others).depth ≤ nestingLimit := by
    simp [Value.depth, others, nestingLimit]
  have described : op.DescribedBy entries := by
    refine .update (l := stamp) ?_ ?_ ?_ (.inl ⟨?_, rfl⟩) ?_ rfl
    all_goals simp [given, entries]
  have agree : ∀ key ∈ "kind" :: op.kind.fieldNames, given key others = given key entries := by
    simp [given, entries, others, op, Operation.kind, Kind.fieldNames]
  have decoded := ((object_is_operation_iff spelled shallow).1 op).mpr described
  exact ⟨⟨spelled, shallow, described, decoded⟩, spelled', shallow',
    (object_is_operation_iff spelled shallow).2.2 op others other spelled' shallow' agree decoded⟩

end TaskReplicas
