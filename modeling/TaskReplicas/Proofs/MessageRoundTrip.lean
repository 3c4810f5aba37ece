import TaskReplicas.Operation.LogReader
import TaskReplicas.Operation.Message
import TaskReplicas.Proofs.JsonText
import Mathlib.Data.List.Forall2

/-!
# Messages are read back

An operation survives its message. The reader is followed token by token: an entry with a plain
value is kept (`Reading.reads_entries`), and at the closing bracket an object that names its kind
first is what its entries describe (`Reading.reads_object`); a list is what its items describe
(`Reading.reads_list`). The entries and the items of an operation describe that operation, and a log
reads each of its operations as the reader of operations does (`LogReading.reads_inside`). The texts
come in by `Json.scan_of_spaced`: any text that spells out the tokens of a message is read as the
message.
-/

set_option autoImplicit false

namespace TaskReplicas

open Json (Outline Token Apart Legible Spaced scan_of_spaced spaced_written written)

/-! ## Rows with commas between them -/

/-- The list with these items. -/
def listTokens (items : List (List Token)) : List Token :=
  .openList :: [.comma].intercalate items ++ [.closeList]

/-- Rows with commas between them are the first one, and each other one behind a comma. -/
theorem intercalate_comma (first : List Token) (rows : List (List Token)) :
    [Token.comma].intercalate (first :: rows) = first ++ rows.flatMap (Token.comma :: ·) := by
  induction rows generalizing first with
  | nil => simp [List.intercalate]
  | cons row rows ih =>
    rw [List.intercalate_cons_cons, ih, List.flatMap_cons, List.append_assoc,
      List.singleton_append, List.cons_append]

/-- What holds of each row, and of two rows with a comma between them when it holds of both, holds
of all the rows with commas between them. -/
theorem intercalate_induction {P : List Token → Prop} (nil : P [])
    (comma : ∀ {ts us}, P ts → P us → P (ts ++ .comma :: us)) {rows : List (List Token)}
    (h : ∀ row ∈ rows, P row) : P ([Token.comma].intercalate rows) := by
  induction rows with
  | nil => exact nil
  | cons row rows ih =>
    have later := ih fun r hr => h r (List.mem_cons_of_mem _ hr)
    have first := h row List.mem_cons_self
    cases rows with
    | nil => simpa [List.intercalate] using first
    | cons next rows =>
      rw [List.intercalate_cons_cons, List.append_assoc, List.singleton_append]
      exact comma first later

/-- A comma keeps numbers apart. -/
theorem apart_comma {ts us : List Token} (hts : Apart ts) (hus : Apart us) :
    Apart (ts ++ .comma :: us) := by
  refine List.isChain_append.mpr ⟨hts, ?_, ?_⟩
  · exact List.isChain_cons.mpr ⟨fun u hu => .inl rfl, hus⟩
  · rintro t - u hu
    cases hu
    exact .inr rfl

/-- Brackets keep numbers apart. -/
theorem apart_bracketed {first last : Token} {ts : List Token} (h : Apart ts)
    (hf : first.isNumber = false) (hl : last.isNumber = false) : Apart (first :: ts ++ [last]) := by
  refine List.isChain_append.mpr ⟨?_, .singleton _, ?_⟩
  · exact List.isChain_cons.mpr ⟨fun u _ => .inl hf, h⟩
  · rintro t - u hu
    cases hu
    exact .inr hl

/-- Legible rows with a comma between them are legible. -/
theorem legible_comma {ts us : List Token} (hts : Legible ts) (hus : Legible us) :
    Legible (ts ++ .comma :: us) := by
  refine ⟨fun t ht => ?_, apart_comma hts.apart hus.apart⟩
  rcases List.mem_append.mp ht with ht | ht
  · exact hts.each t ht
  · rcases List.mem_cons.mp ht with rfl | ht
    · trivial
    · exact hus.each t ht

/-- Legible rows with commas between them are legible. -/
theorem legible_intercalate {rows : List (List Token)} (h : ∀ row ∈ rows, Legible row) :
    Legible ([Token.comma].intercalate rows) :=
  intercalate_induction ⟨by simp, .nil⟩ legible_comma h

/-- A legible row is legible in brackets. -/
theorem legible_bracketed {first last : Token} {ts : List Token} (h : Legible ts)
    (hf : first.Legible ∧ first.isNumber = false) (hl : last.Legible ∧ last.isNumber = false) :
    Legible (first :: ts ++ [last]) := by
  refine ⟨fun t ht => ?_, apart_bracketed h.apart hf.2 hl.2⟩
  rcases List.mem_append.mp ht with ht | ht
  · rcases List.mem_cons.mp ht with rfl | ht
    · exact hf.1
    · exact h.each t ht
  · cases List.mem_singleton.mp ht
    exact hl.1

/-- A list of legible items is legible. -/
theorem legible_listTokens {items : List (List Token)} (h : ∀ item ∈ items, Legible item) :
    Legible (listTokens items) :=
  legible_bracketed (legible_intercalate h) ⟨trivial, rfl⟩ ⟨trivial, rfl⟩

/-- An object with legible values is legible. -/
theorem legible_objectTokens {entries : List (String × Token)}
    (h : ∀ e ∈ entries, e.2.Legible) : Legible (objectTokens entries) := by
  refine legible_bracketed (legible_intercalate ?_) ⟨trivial, rfl⟩ ⟨trivial, rfl⟩
  intro row hrow
  obtain ⟨⟨key, value⟩, he, rfl⟩ := List.mem_map.mp hrow
  have value := h _ he
  constructor
  · intro t ht
    rcases List.mem_cons.mp ht with rfl | ht
    · trivial
    rcases List.mem_cons.mp ht with rfl | ht
    · trivial
    cases List.mem_singleton.mp ht
    exact value
  · refine List.isChain_cons_cons.mpr ⟨.inl rfl, List.isChain_cons_cons.mpr ⟨.inl rfl, ?_⟩⟩
    exact .singleton _

/-! ## What an operation says -/

/-- The list form of an operation: its kind, and then its fields as they are declared. -/
def Operation.itemTokens (op : Operation) : List Token :=
  listTokens ([.string op.kind.name] :: op.fieldTokens.map fun field => [field.2])

/-- What the fields of an operation behind its kind show. -/
def Operation.fieldOutlines : Operation → List (String × Outline)
  | create t => [("task_id", .string t)]
  | delete t => [("task_id", .string t)]
  | update t p v s =>
    [("task_id", .string t), ("property", .string p), ("value", v.elim .null .string),
      ("timestamp", .number (.integer s.toInt))]

/-- The token that a value without brackets is; of a list or an object, its opening bracket. -/
def Json.Outline.token : Outline → Token
  | null => .null
  | bool b => .bool b
  | number n => .number n
  | string s => .string s
  | list => .openList
  | object => .openObject

/-- An outline is known by its token. -/
theorem Json.Outline.ofToken?_token (found : Outline) :
    Outline.ofToken? found.token = some found := by
  cases found <;> rfl

namespace Operation

/-- The fields of a message are the tokens of the outlines that the reader sees. -/
theorem fieldTokens_eq (op : Operation) :
    op.fieldTokens = op.fieldOutlines.map fun e => (e.1, e.2.token) := by
  cases op with
  | create t => rfl
  | delete t => rfl
  | update t p v s => cases v <;> rfl

/-- The fields of an operation are legible. -/
theorem legible_field (op : Operation) : ∀ e ∈ op.fieldTokens, e.2.Legible := by
  have string (s : String) : (Token.string s).Legible := trivial
  cases op with
  | create t => simpa [fieldTokens] using string t
  | delete t => simpa [fieldTokens] using string t
  | update t p v s =>
    have value : (v.elim Token.null Token.string).Legible := by cases v <;> trivial
    have bounds : (Token.number (.integer s.toInt)).Legible :=
      ⟨Int64.le_toInt s, by have := Int64.toInt_lt s; omega⟩
    simpa [fieldTokens] using ⟨string t, string p, value, bounds⟩

/-- The message for an operation is legible. -/
theorem legible_tokens (op : Operation) : Legible op.tokens := by
  refine legible_objectTokens fun e he => ?_
  rcases List.mem_cons.mp he with rfl | he
  · trivial
  · exact op.legible_field e he

/-- The list form of an operation is legible. -/
theorem legible_itemTokens (op : Operation) : Legible op.itemTokens := by
  have single {t : Token} (h : t.Legible) : Legible [t] :=
    ⟨fun u hu => List.mem_singleton.mp hu ▸ h, .singleton _⟩
  refine legible_listTokens fun row hrow => ?_
  rcases List.mem_cons.mp hrow with rfl | hrow
  · exact single trivial
  · obtain ⟨e, he, rfl⟩ := List.mem_map.mp hrow
    exact single (op.legible_field e he)

/-- No field of an operation has the name of the kind. -/
theorem fieldOutlines_named (op : Operation) : ∀ e ∈ op.fieldOutlines, e.1 ≠ "kind" := by
  cases op <;> simp [fieldOutlines]

/-- No field of an operation is a bracket. -/
theorem fieldOutlines_plain (op : Operation) :
    ∀ e ∈ op.fieldOutlines, Reading.bracket? e.2 = none := by
  cases op with
  | create t => simp [fieldOutlines, Reading.bracket?]
  | delete t => simp [fieldOutlines, Reading.bracket?]
  | update t p v s => cases v <;> simp [fieldOutlines, Reading.bracket?]

/-- A time is read back from its number. -/
theorem readTimestamp_toInt (s : Timestamp) :
    readTimestamp (.number (.integer s.toInt)) = .ok s := by
  have high : s.toInt < 2 ^ 63 := Int64.toInt_lt s
  rw [readTimestamp, if_pos high, Int64.ofInt_toInt]

/-- A value that may be absent is read back. -/
theorem readOptionalText_elim (v : Option String) :
    readOptionalText (v.elim .null .string) = .ok v := by
  cases v <;> rfl

/-- An operation is made of its kind and its fields by name. -/
theorem ofEntries_fieldOutlines (op : Operation) :
    ofEntries op.kind op.fieldOutlines = .ok op := by
  cases op with
  | create t => rfl
  | delete t => rfl
  | update t p v s =>
    have stamped := readTimestamp_toInt s
    have valued := readOptionalText_elim v
    simp [ofEntries, fieldOutlines, Fields.add, Fields.fill, Fields.toOperation, Fields.require,
      kind, Kind.fieldNames, readText, valued, stamped, Except.map, bind, Except.bind, pure,
      Except.pure]

/-- An operation is made of its kind and its fields in their order. -/
theorem ofItems_fieldOutlines (op : Operation) :
    ofItems op.kind (op.fieldOutlines.map Prod.snd) = .ok op := by
  cases op with
  | create t => rfl
  | delete t => rfl
  | update t p v s =>
    have stamped := readTimestamp_toInt s
    have valued := readOptionalText_elim v
    simp [ofItems, fieldOutlines, takeItem, kind, Kind.fieldNames, readText, valued, stamped, bind,
      Except.bind, pure, Except.pure]

end Operation

/-! ## Reading operations -/

namespace Reading

variable {room : Nat}

/-- A kind is read from its name. -/
theorem kindOf_name (kind : Kind) : kindOf (.string kind.name) = .ok kind := by
  cases kind <;> rfl

/-- A value without brackets is read from its token. -/
theorem valueOf_token {found : Outline} (plain : bracket? found = none) :
    valueOf room found.token = .ok (.inl found) := by
  rw [valueOf, found.ofToken?_token]
  simp only [plain]

/-- What is left to do behind the last bracket of an operation. -/
def conclude : Except Mismatch Operation → Except ReadError Operation
  | .ok op => .ok op
  | .error m => .error (.mismatch m)

/-- Entries are read one after the other and kept, the last one first. -/
theorem reads_entries (kind : Kind) (before entries : List (String × Outline))
    (named : ∀ e ∈ entries, e.1 ≠ "kind") (plain : ∀ e ∈ entries, bracket? e.2 = none)
    (ts : List Token) :
    readTokens (next room) (.object (some kind) before .entryEnd "")
        ((entries.flatMap fun e => [.comma, .string e.1, .colon, e.2.token]) ++ ts) =
      readTokens (next room) (.object (some kind) (entries.reverse ++ before) .entryEnd "") ts := by
  induction entries generalizing before with
  | nil => rfl
  | cons e entries ih =>
    have key := named e List.mem_cons_self
    have value : valueOf room e.2.token = .ok (.inl e.2) :=
      valueOf_token (plain e List.mem_cons_self)
    have later := ih (e :: before) (fun f hf => named f (List.mem_cons_of_mem _ hf))
      (fun f hf => plain f (List.mem_cons_of_mem _ hf))
    rw [List.reverse_cons, List.append_assoc, List.singleton_append, ← later]
    simp [readTokens, next, nextInObject, takeKey, takeEntry, goOn, key, value]

/-- Items are read one after the other and kept, the last one first. -/
theorem reads_items (kind : Kind) (before items : List Outline)
    (plain : ∀ found ∈ items, bracket? found = none) (ts : List Token) :
    readTokens (next room) (.list kind before .itemEnd)
        ((items.flatMap fun found => [.comma, found.token]) ++ ts) =
      readTokens (next room) (.list kind (items.reverse ++ before) .itemEnd) ts := by
  induction items generalizing before with
  | nil => rfl
  | cons found items ih =>
    have value : valueOf room found.token = .ok (.inl found) :=
      valueOf_token (plain found List.mem_cons_self)
    have later := ih (found :: before) (fun f hf => plain f (List.mem_cons_of_mem _ hf))
    rw [List.reverse_cons, List.append_assoc, List.singleton_append, ← later]
    simp [readTokens, next, nextInList, takeItem, goOn, value]

/-- The last token of an operation concludes the reading. -/
theorem reads_finish {r : Reading} {t : Token} {result : Except Mismatch Operation}
    (h : next room r t = finish result) : readTokens (next room) r [t] = conclude result := by
  rw [readTokens, h]
  cases result <;> rfl

/-- An object that names its kind first is what its other entries describe. -/
theorem reads_object (kind : Kind) (entries : List (String × Outline))
    (named : ∀ e ∈ entries, e.1 ≠ "kind") (plain : ∀ e ∈ entries, bracket? e.2 = none) :
    readTokens (next room) .start
        (objectTokens (("kind", .string kind.name) :: entries.map fun e => (e.1, e.2.token))) =
      conclude (Operation.ofEntries kind entries) := by
  have rows : entryTokens (("kind", .string kind.name) :: entries.map fun e => (e.1, e.2.token)) =
      [.string "kind", .colon, .string kind.name] ++
        entries.flatMap fun e => [.comma, .string e.1, .colon, e.2.token] := by
    rw [entryTokens, List.map_cons, intercalate_comma, List.map_map, List.flatMap_map]
    rfl
  have opened (ts : List Token) : readTokens (next room) .start
      (.openObject :: [.string "kind", .colon, .string kind.name] ++ ts) =
        readTokens (next room) (.object (some kind) [] .entryEnd "") ts := by
    simp [readTokens, next, nextInObject, takeKey, takeEntry, goOn, kindOf_name, Outline.ofToken?]
  rw [objectTokens, rows, ← List.cons_append, List.append_assoc, opened,
    reads_entries kind [] entries named plain, List.append_nil]
  refine reads_finish ?_
  simp [next, nextInObject, closeObject]

/-- A list that starts with a kind is what its other items describe. -/
theorem reads_list (kind : Kind) (items : List Outline)
    (plain : ∀ found ∈ items, bracket? found = none) :
    readTokens (next room) .start
        (listTokens ([.string kind.name] :: items.map fun found => [found.token])) =
      conclude (Operation.ofItems kind items) := by
  have opened (ts : List Token) : readTokens (next room) .start
      (.openList :: [.string kind.name] ++ ts) =
        readTokens (next room) (.list kind [] .itemEnd) ts := by
    simp [readTokens, next, goOn, kindOf_name, Outline.ofToken?]
  rw [listTokens, intercalate_comma, List.flatMap_map, ← List.cons_append, List.append_assoc,
    opened, reads_items kind [] items plain, List.append_nil]
  refine reads_finish ?_
  simp [next, nextInList]

end Reading

/-- The rows of tokens that say an operation: its message, and its list form. -/
def Operation.SaidBy (op : Operation) (ts : List Token) : Prop :=
  ts = op.tokens ∨ ts = op.itemTokens

namespace Operation.SaidBy

variable {op : Operation} {ts : List Token}

/-- Both forms of an operation are legible. -/
theorem legible (h : op.SaidBy ts) : Legible ts := by
  rcases h with rfl | rfl
  · exact op.legible_tokens
  · exact op.legible_itemTokens

/-- Both forms of an operation are read back. -/
theorem reads (h : op.SaidBy ts) (room : Nat) :
    readTokens (Reading.next room) .start ts = .ok op := by
  rcases h with rfl | rfl
  · rw [tokens, fieldTokens_eq, Reading.reads_object _ _ op.fieldOutlines_named
      op.fieldOutlines_plain, ofEntries_fieldOutlines]
    rfl
  · have plain : ∀ found ∈ op.fieldOutlines.map Prod.snd, Reading.bracket? found = none := by
      intro found hf
      obtain ⟨e, he, rfl⟩ := List.mem_map.mp hf
      exact op.fieldOutlines_plain e he
    have items : op.fieldTokens.map (fun field => [field.2]) =
        (op.fieldOutlines.map Prod.snd).map fun found => [found.token] := by
      rw [fieldTokens_eq, List.map_map, List.map_map]
      rfl
    rw [itemTokens, items, Reading.reads_list _ _ plain, ofItems_fieldOutlines]
    rfl

end Operation.SaidBy

/-! ## Reading logs -/

namespace LogReading

/-- What is read as an operation on its own is read as that operation in a log. -/
theorem reads_inside {r : Reading} {ts : List Token} {op : Operation}
    (h : readTokens (Reading.next (nestingLimit - 2)) r ts = .ok op) (log : List Operation)
    (rest : List Token) :
    readTokens next (.inside log r) (ts ++ rest) =
      readTokens next (.between (op :: log) .itemEnd) rest := by
  induction ts generalizing r with
  | nil => cases h
  | cons t ts ih =>
    rw [List.cons_append, readTokens, next, nextInside]
    rw [readTokens] at h
    cases step : r.next (nestingLimit - 2) t with
    | error e => rw [step] at h; cases h
    | ok s =>
      rw [step] at h
      cases s with
      | more r => exact ih h
      | done op' =>
        -- the last token of the operation: no more of them are left
        cases ts with
        | nil => cases h; rfl
        | cons t ts => cases h

/-- Within a log an operation is read to its end and put to those before it. -/
theorem reads_item {op : Operation} {ts : List Token} (h : op.SaidBy ts) (log : List Operation)
    (rest : List Token) :
    readTokens next (.between log .item) (ts ++ rest) =
      readTokens next (.between (op :: log) .itemEnd) rest := by
  have inside := reads_inside (h.reads _) log rest
  cases ts with
  | nil => exact absurd (h.reads 0) (by simp [readTokens])
  | cons t ts => exact inside

/-- The first operation of a log is read to its end. -/
theorem reads_first {op : Operation} {ts : List Token} (h : op.SaidBy ts) (rest : List Token) :
    readTokens next (.between [] .itemOrClose) (ts ++ rest) =
      readTokens next (.between [op] .itemEnd) rest := by
  have inside := reads_inside (h.reads _) [] rest
  have opens : ∃ t us, ts = t :: us ∧ t ≠ .closeList := by
    rcases h with rfl | rfl
    · exact ⟨.openObject, _, rfl, by decide⟩
    · exact ⟨.openList, _, rfl, by decide⟩
  obtain ⟨t, us, rfl, ht⟩ := opens
  rw [← inside, List.cons_append, readTokens, readTokens, next, if_neg ht]
  rfl

/-- Behind an operation the others follow, each behind a comma. -/
theorem reads_others {log : List Operation} {rows : List (List Token)}
    (h : List.Forall₂ Operation.SaidBy log rows) (before : List Operation) :
    readTokens next (.between before .itemEnd)
        (rows.flatMap (Token.comma :: ·) ++ [.closeList]) =
      .ok (before.reverse ++ log) := by
  induction h generalizing before with
  | nil => simp [readTokens, next]
  | @cons op row log rows said _ ih =>
    have comma (ts : List Token) : readTokens next (.between before .itemEnd) (.comma :: ts) =
        readTokens next (.between before .item) ts := by
      simp [readTokens, next]
    rw [List.flatMap_cons, List.append_assoc, List.cons_append, comma, reads_item said, ih,
      List.reverse_cons, List.append_assoc, List.singleton_append]

/-- A list of what says operations is read as their log. -/
theorem reads_log {log : List Operation} {rows : List (List Token)}
    (h : List.Forall₂ Operation.SaidBy log rows) :
    readTokens next .start (listTokens rows) = .ok log := by
  have opened (ts : List Token) : readTokens next .start (.openList :: ts) =
      readTokens next (.between [] .itemOrClose) ts := by
    simp [readTokens, next, Outline.ofToken?]
  rw [listTokens, List.cons_append, opened]
  -- an empty log closes at once; in any other the first operation has no comma before it
  cases h with
  | nil => rfl
  | @cons op row log rows said others =>
    rw [intercalate_comma, List.append_assoc, reads_first said, reads_others others]
    rfl

end LogReading

/-! ## Texts -/

/-- The message for an operation is its tokens without blanks. -/
theorem json_toList (op : Operation) : op.json.toList = written op.tokens := String.toList_ofList

/-- Rows of tokens with commas are written as their texts with commas. -/
theorem written_intercalate (rows : List (List Token)) :
    written ([Token.comma].intercalate rows) = [','].intercalate (rows.map written) := by
  induction rows with
  | nil => rfl
  | cons row rows ih =>
    cases rows with
    | nil => simp [List.intercalate, written]
    | cons next rows =>
      rw [List.intercalate_cons_cons, List.map_cons, List.map_cons, List.intercalate_cons_cons,
        ← List.map_cons, ← ih, written, List.flatMap_append, List.flatMap_append]
      rfl

/-- The texts of operations with commas between them and brackets around them are the text of their
log. -/
theorem bracketed_toList (log : List Operation) :
    ("[" ++ ",".intercalate (log.map Operation.json) ++ "]").toList =
      written (listTokens (log.map Operation.tokens)) := by
  have texts : (log.map Operation.json).map String.toList =
      (log.map Operation.tokens).map written := by
    rw [List.map_map, List.map_map]
    exact List.map_congr_left fun op _ => json_toList op
  rw [String.toList_append, String.toList_append, String.toList_intercalate, texts, listTokens,
    written, List.flatMap_append, List.flatMap_cons]
  exact congrArg (fun cs => ['['] ++ cs ++ [']']) (written_intercalate _).symm

/-- An operation is read back from either of its forms, with any blanks. -/
theorem decode_of_spaced {op : Operation} {ts : List Token} (h : op.SaidBy ts) {text : String}
    (spaced : Spaced ts text.toList) : Operation.decode text = .ok op := by
  rw [Operation.decode, scan_of_spaced spaced h.legible, h.reads]

/-- A log is read back from any forms of its operations, with any blanks. -/
theorem decodeLog_of_spaced {log : List Operation} {rows : List (List Token)}
    (h : List.Forall₂ Operation.SaidBy log rows) {text : String}
    (spaced : Spaced (listTokens rows) text.toList) : decodeLog text = .ok log := by
  have legible : ∀ row ∈ rows, Legible row := by
    clear spaced
    induction h with
    | nil => simp
    | cons said _ ih => exact List.forall_mem_cons.mpr ⟨said.legible, ih⟩
  rw [decodeLog, scan_of_spaced spaced (legible_listTokens legible), LogReading.reads_log h]

/-- **Messages are read back.** An operation is read from its message, and from every text that
spells out its message or its list form with any blanks between the tokens. A log is read from the
messages of its operations with commas between them and brackets around them, and from every text
that spells out a list of what says its operations. -/
theorem messages_read_back :
    (∀ op : Operation, Operation.decode op.json = .ok op ∧
      ∀ ts, op.SaidBy ts → ∀ text : String, Spaced ts text.toList →
        Operation.decode text = .ok op) ∧
    ∀ log : List Operation,
      decodeLog ("[" ++ ",".intercalate (log.map Operation.json) ++ "]") = .ok log ∧
      ∀ rows, List.Forall₂ Operation.SaidBy log rows → ∀ text : String,
        Spaced (listTokens rows) text.toList → decodeLog text = .ok log := by
  refine ⟨fun op => ⟨?_, fun ts said text spaced => decode_of_spaced said spaced⟩,
    fun log => ⟨?_, fun rows said text spaced => decodeLog_of_spaced said spaced⟩⟩
  · refine decode_of_spaced (.inl rfl) ?_
    rw [json_toList]
    exact spaced_written op.tokens
  · have said : List.Forall₂ Operation.SaidBy log (log.map Operation.tokens) := by
      rw [List.forall₂_map_right_iff]
      exact List.forall₂_same.mpr fun op _ => .inl rfl
    refine decodeLog_of_spaced said ?_
    rw [bracketed_toList]
    exact spaced_written _

/-- An update without a value in its list form, with blanks of every sort, and a log with both
forms. -/
theorem messages_read_back_spaced :
    let op : Operation := .update "" "\"\\\n" none Int64.minValue
    let text := " [ \"Update\",\"\" ,\t\"\\\"\\\\\\n\", null,-9223372036854775808\r\n]"
    let log : List Operation := [.delete "null", .create ""]
    let rows := [(Operation.delete "null").itemTokens, (Operation.create "").tokens]
    let logText := "[[\"Delete\",\"null\"]\n, \x7b\"kind\":\"Create\", \"task_id\":\"\"\x7d ]\t"
    (op.SaidBy op.itemTokens ∧ Spaced op.itemTokens text.toList ∧
      Operation.decode text = .ok op) ∧
    List.Forall₂ Operation.SaidBy log rows ∧ Spaced (listTokens rows) logText.toList ∧
      decodeLog logText = .ok log := by
  intro op text log rows logText
  have item : op.SaidBy op.itemTokens := .inr rfl
  have spaced : Spaced op.itemTokens text.toList := by
    unfold op text
    exact .blank rfl <| .token .openList <| .blank rfl <| .token (.string "Update") <|
      .token .comma <| .token (.string "") <| .blank rfl <| .token .comma <| .blank rfl <|
      .token (.string "\"\\\n") <| .token .comma <| .blank rfl <| .token .null <|
      .token .comma <| .token (.number (.integer Int64.minValue.toInt)) <| .blank rfl <|
      .blank rfl <| .token .closeList .nil
  have said : List.Forall₂ Operation.SaidBy log rows := .cons (.inr rfl) (.cons (.inl rfl) .nil)
  have logSpaced : Spaced (listTokens rows) logText.toList := by
    unfold rows logText
    exact .token .openList <| .token .openList <| .token (.string "Delete") <| .token .comma <|
      .token (.string "null") <| .token .closeList <| .blank rfl <| .token .comma <|
      .blank rfl <| .token .openObject <| .token (.string "kind") <| .token .colon <|
      .token (.string "Create") <| .token .comma <| .blank rfl <| .token (.string "task_id") <|
      .token .colon <| .token (.string "") <| .token .closeObject <| .blank rfl <|
      .token .closeList <| .blank rfl .nil
  exact ⟨⟨item, spaced, (messages_read_back.1 op).2 _ item text spaced⟩, said, logSpaced,
    (messages_read_back.2 log).2 rows said logText logSpaced⟩

end TaskReplicas
