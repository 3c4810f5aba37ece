import TaskReplicas.Proofs.CutText
import TaskReplicas.Proofs.MessageRoundTrip

/-!
# Truncated messages

A message that was cut short is never mistaken for anything else. What stands at the cut is nothing,
a broken token or a shorter number, and a reader is `Patient` when none of these decides anything: a
broken token is refused as truncated wherever the whole one could stand, and a number does not end
what is read. Both readers are (`Reading.patient_next`, `LogReading.patient_next`), and a patient
reader that takes a whole row finds every cut of it truncated (`Patient.readTokens_cut`).
-/

set_option autoImplicit false

namespace TaskReplicas

open Json (Outline Token Nesting Place Defect Cut CutRow written scan_of_cut)

/-- A token that is a scalar is no mark. -/
theorem Json.Token.ne_of_isScalar {t mark : Token} (scalar : t.isScalar = true)
    (h : mark.isScalar = false) : t ≠ mark := by
  rintro rfl
  exact Bool.false_ne_true (h.symm.trans scalar)

/-! ## Nested values -/

namespace Json.Nesting

variable {n : Nesting} {t : Token} {after : Option Nesting}

/-- Where a key is taken, one that was cut is refused for what it lacks. -/
theorem key_broken (h : n.key t = .ok after) (d : Defect) :
    n.key (.broken t.isQuoted d) = .error d := by
  cases t with
  | string s => rfl
  | _ => cases h

/-- Where a scalar is taken within brackets, one that was cut is refused for what it lacks. -/
theorem next_broken (h : n.next t = .ok after) (scalar : t.isScalar = true) (d : Defect) :
    n.next (.broken t.isQuoted d) = .error d := by
  have comma : t ≠ .comma := Token.ne_of_isScalar scalar rfl
  have colon : t ≠ .colon := Token.ne_of_isScalar scalar rfl
  have closeList : t ≠ .closeList := Token.ne_of_isScalar scalar rfl
  have closeObject : t ≠ .closeObject := Token.ne_of_isScalar scalar rfl
  obtain ⟨inner, outer, place, room⟩ := n
  cases place with
  | itemOrClose => rfl
  | item => rfl
  | itemEnd => simp [next, comma, closeList] at h
  | keyOrClose =>
    rw [next, if_neg closeObject] at h
    exact key_broken h d
  | key => exact key_broken h d
  | colon => simp [next, colon] at h
  | entry => rfl
  | entryEnd => simp [next, comma, closeObject] at h

/-- Where a number is taken within brackets, every number is. -/
theorem next_number {x : Number} (h : n.next (.number x) = .ok after) (y : Number) :
    ∃ n', n.next (.number y) = .ok (some n') := by
  obtain ⟨inner, outer, place, room⟩ := n
  cases place with
  | itemOrClose => exact ⟨_, rfl⟩
  | item => exact ⟨_, rfl⟩
  | entry => exact ⟨_, rfl⟩
  | _ => cases h

end Json.Nesting

/-! ## Patient readers -/

/-- A reader that is not misled by a token that was cut: it refuses the token as truncated where it
takes the whole one, and where it takes one number it goes on behind any other. -/
structure Patient {σ α : Type} (next : σ → Token → Except ReadError (Step σ α)) : Prop where
  broken {s : σ} {t : Token} {step : Step σ α} (h : next s t = .ok step)
    (scalar : t.isScalar = true) (d : Defect) :
    next s (.broken t.isQuoted d) = .error (.defect d)
  number {s : σ} {x : Json.Number} {step : Step σ α} (h : next s (.number x) = .ok step)
    (y : Json.Number) : ∃ s', next s (.number y) = .ok (.more s')

/-- **What a patient reader takes, it finds truncated when it was cut.** -/
theorem Patient.readTokens_cut {σ α : Type} {next : σ → Token → Except ReadError (Step σ α)}
    (patient : Patient next) {ts us : List Token} (cut : CutRow ts us) {s : σ} {a : α}
    (h : readTokens next s ts = .ok a) : readTokens next s us = .error (.defect .truncated) := by
  induction cut generalizing s with
  | missing => rfl
  | @broken t ts scalar =>
    cases step : next s t with
    | error e => rw [readTokens, step] at h; cases h
    | ok after => rw [readTokens, patient.broken step scalar]
  | @shorter x y ts =>
    cases step : next s (.number x) with
    | error e => rw [readTokens, step] at h; cases h
    | ok after =>
      obtain ⟨s', hs⟩ := patient.number step y
      rw [readTokens, hs]
      rfl
  | @behind t ts us rest ih =>
    rw [readTokens] at h ⊢
    cases step : next s t with
    | error e => rw [step] at h; cases h
    | ok after =>
      rw [step] at h
      cases after with
      | more s' => exact ih h
      | done b =>
        -- something would have been read before the last token
        cases rest <;> cases h

/-! ## Operations -/

namespace Reading

variable {room : Nat}

/-- Where an entry of an operation may begin, a key that was cut is refused for what it lacks. -/
theorem takeKey_broken {kind : Option Kind} {entries : List (String × Outline)} {t : Token}
    {after : Step Reading Operation} (h : takeKey kind entries t = .ok after) (d : Defect) :
    takeKey kind entries (.broken t.isQuoted d) = .error (.defect d) := by
  cases t with
  | string s => rfl
  | _ => cases h

/-- Within a value that is passed over, a scalar that was cut is refused for what it lacks. -/
theorem passOver_broken {value : Passing} {t : Token} {inside : Passing → Reading}
    {behind : Outline → Reading} {after : Step Reading Operation}
    (h : passOver value t inside behind = .ok after) (scalar : t.isScalar = true) (d : Defect) :
    passOver value (.broken t.isQuoted d) inside behind = .error (.defect d) := by
  cases passed : value.nesting.next t with
  | error e => rw [passOver, passed] at h; cases h
  | ok n =>
    rw [passOver, Nesting.next_broken passed scalar d]
    rfl

/-- Within a value that is passed over, every number is taken where one is. -/
theorem passOver_number {value : Passing} {x : Json.Number} {inside : Passing → Reading}
    {behind : Outline → Reading} {after : Step Reading Operation}
    (h : passOver value (.number x) inside behind = .ok after) (y : Json.Number) :
    ∃ r, passOver value (.number y) inside behind = .ok (.more r) := by
  cases passed : value.nesting.next (.number x) with
  | error e => rw [passOver, passed] at h; cases h
  | ok n =>
    obtain ⟨n', hn⟩ := Nesting.next_number passed y
    rw [passOver, hn]
    exact ⟨_, rfl⟩

/-- Where a scalar is taken within an operation, one that was cut is refused for what it lacks. -/
theorem next_broken {r : Reading} {t : Token} {after : Step Reading Operation}
    (h : r.next room t = .ok after) (scalar : t.isScalar = true) (d : Defect) :
    r.next room (.broken t.isQuoted d) = .error (.defect d) := by
  have comma : t ≠ .comma := Token.ne_of_isScalar scalar rfl
  have colon : t ≠ .colon := Token.ne_of_isScalar scalar rfl
  have closeList : t ≠ .closeList := Token.ne_of_isScalar scalar rfl
  have closeObject : t ≠ .closeObject := Token.ne_of_isScalar scalar rfl
  cases r with
  | start => rfl
  | object kind entries place key =>
    cases place with
    | keyOrClose =>
      rw [next, nextInObject, if_neg closeObject] at h
      exact takeKey_broken h d
    | key => exact takeKey_broken h d
    | colon => simp [next, nextInObject, refuse, colon] at h
    | entry =>
      rw [next, nextInObject, takeEntry]
      split <;> rfl
    | _ => simp [next, nextInObject, refuse, comma, closeObject] at h
  | inObject kind entries key value =>
    rw [next] at h ⊢
    exact passOver_broken h scalar d
  | listKind => rfl
  | list kind items place =>
    cases place with
    | item => rfl
    | _ => simp [next, nextInList, refuse, comma, closeList] at h
  | inList kind items value =>
    rw [next] at h ⊢
    exact passOver_broken h scalar d

/-- Where a number is taken within an operation, every number is. -/
theorem next_number {r : Reading} {x : Json.Number} {after : Step Reading Operation}
    (h : r.next room (.number x) = .ok after) (y : Json.Number) :
    ∃ r', r.next room (.number y) = .ok (.more r') := by
  cases r with
  | start => cases h
  | object kind entries place key =>
    cases place with
    | entry =>
      by_cases named : key = "kind"
      · subst named
        cases h
      · rw [next, nextInObject, takeEntry, if_neg named]
        exact ⟨_, rfl⟩
    | _ => cases h
  | inObject kind entries key value =>
    rw [next] at h ⊢
    exact passOver_number h y
  | listKind => cases h
  | list kind items place =>
    cases place with
    | item => exact ⟨_, rfl⟩
    | _ => cases h
  | inList kind items value =>
    rw [next] at h ⊢
    exact passOver_number h y

/-- The reader of an operation is patient. -/
theorem patient_next (room : Nat) : Patient (next room) := ⟨next_broken, next_number⟩

end Reading

/-! ## Logs -/

namespace LogReading

/-- Where a scalar is taken within an operation of a log, one that was cut is refused for what it
lacks. -/
theorem nextInside_broken {log : List Operation} {r : Reading} {t : Token}
    {after : Step LogReading (List Operation)} (h : nextInside log r t = .ok after)
    (scalar : t.isScalar = true) (d : Defect) :
    nextInside log r (.broken t.isQuoted d) = .error (.defect d) := by
  cases step : r.next (nestingLimit - 2) t with
  | error e => rw [nextInside, step] at h; cases h
  | ok after => rw [nextInside, Reading.next_broken step scalar d]

/-- Where a number is taken within an operation of a log, every number is. -/
theorem nextInside_number {log : List Operation} {r : Reading} {x : Json.Number}
    {after : Step LogReading (List Operation)} (h : nextInside log r (.number x) = .ok after)
    (y : Json.Number) : ∃ l, nextInside log r (.number y) = .ok (.more l) := by
  cases step : r.next (nestingLimit - 2) (.number x) with
  | error e => rw [nextInside, step] at h; cases h
  | ok after =>
    obtain ⟨r', hr⟩ := Reading.next_number step y
    rw [nextInside, hr]
    exact ⟨_, rfl⟩

/-- Where a scalar is taken within a log, one that was cut is refused for what it lacks. -/
theorem next_broken {l : LogReading} {t : Token} {after : Step LogReading (List Operation)}
    (h : l.next t = .ok after) (scalar : t.isScalar = true) (d : Defect) :
    l.next (.broken t.isQuoted d) = .error (.defect d) := by
  have comma : t ≠ .comma := Token.ne_of_isScalar scalar rfl
  have closeList : t ≠ .closeList := Token.ne_of_isScalar scalar rfl
  cases l with
  | start => rfl
  | between log place =>
    cases place with
    | itemOrClose =>
      rw [next, if_neg closeList] at h
      exact nextInside_broken h scalar d
    | item => exact nextInside_broken h scalar d
    | _ => simp [next, comma, closeList] at h
  | inside log r => exact nextInside_broken h scalar d

/-- Where a number is taken within a log, every number is. -/
theorem next_number {l : LogReading} {x : Json.Number}
    {after : Step LogReading (List Operation)} (h : l.next (.number x) = .ok after)
    (y : Json.Number) : ∃ l', l.next (.number y) = .ok (.more l') := by
  cases l with
  | start => cases h
  | between log place =>
    cases place with
    | itemOrClose =>
      rw [next, if_neg (Token.ne_of_isScalar rfl rfl)] at h ⊢
      exact nextInside_number h y
    | item =>
      rw [next] at h ⊢
      exact nextInside_number h y
    | _ => cases h
  | inside log r => exact nextInside_number h y

/-- The reader of a log is patient. -/
theorem patient_next : Patient next := ⟨next_broken, next_number⟩

end LogReading

/-! ## Texts -/

/-- The message for an operation is truncated wherever it is cut. -/
theorem decode_cut (op : Operation) {part : String} (h : Cut (written op.tokens) part.toList) :
    Operation.decode part = .error (.defect .truncated) := by
  have said : op.SaidBy op.tokens := .inl rfl
  exact (Reading.patient_next _).readTokens_cut (scan_of_cut said.legible h) (said.reads _)

/-- The message for a log is truncated wherever it is cut. -/
theorem decodeLog_cut (log : List Operation) {part : String}
    (h : Cut (written (listTokens (log.map Operation.tokens))) part.toList) :
    decodeLog part = .error (.defect .truncated) := by
  have said : List.Forall₂ Operation.SaidBy log (log.map Operation.tokens) := by
    rw [List.forall₂_map_right_iff]
    exact List.forall₂_same.mpr fun op _ => .inl rfl
  have legible : Json.Legible (listTokens (log.map Operation.tokens)) := by
    refine legible_listTokens fun row hrow => ?_
    obtain ⟨op, -, rfl⟩ := List.mem_map.mp hrow
    exact op.legible_tokens
  exact LogReading.patient_next.readTokens_cut (scan_of_cut legible h)
    (LogReading.reads_log said)

/-- **A truncated message is recognised as truncated.** Every part of the message of an operation
that ends before the message does, the empty one included, is refused as truncated; and so is every
such part of the messages of a log with commas between them and brackets around them. -/
theorem truncation_is_recognised :
    (∀ (op : Operation) (part : String), part.toList <+: op.json.toList → part ≠ op.json →
      Operation.decode part = .error (.defect .truncated)) ∧
    ∀ (log : List Operation) (part : String),
      part.toList <+: ("[" ++ ",".intercalate (log.map Operation.json) ++ "]").toList →
      part ≠ "[" ++ ",".intercalate (log.map Operation.json) ++ "]" →
      decodeLog part = .error (.defect .truncated) := by
  refine ⟨fun op part before ne => ?_, fun log part before ne => ?_⟩
  · refine decode_cut op ⟨?_, fun same => ne ?_⟩
    · rw [← json_toList]
      exact before
    · rw [← json_toList] at same
      exact String.toList_inj.mp same
  · refine decodeLog_cut log ⟨?_, fun same => ne ?_⟩
    · rw [← bracketed_toList]
      exact before
    · rw [← bracketed_toList] at same
      exact String.toList_inj.mp same

/-- A message that ends inside an escape, and a log that ends inside a number of which only a
shorter one is left. -/
theorem truncation_is_recognised_inside :
    let op := Operation.update "a" "\x01" none (-12)
    let part := "\x7b\"kind\":\"Update\",\"task_id\":\"a\",\"property\":\"\\u00"
    let log := [op]
    let logPart := "[" ++ part ++ "01\",\"value\":null,\"timestamp\":-1"
    (part.toList <+: op.json.toList ∧ part ≠ op.json ∧
      Operation.decode part = .error (.defect .truncated)) ∧
    logPart.toList <+: ("[" ++ ",".intercalate (log.map Operation.json) ++ "]").toList ∧
      logPart ≠ "[" ++ ",".intercalate (log.map Operation.json) ++ "]" ∧
      decodeLog logPart = .error (.defect .truncated) := by
  intro op part log logPart
  have before : part.toList <+: op.json.toList := by decide +kernel
  have ne : part ≠ op.json := by decide +kernel
  have logBefore :
      logPart.toList <+: ("[" ++ ",".intercalate (log.map Operation.json) ++ "]").toList := by
    decide +kernel
  have logNe : logPart ≠ "[" ++ ",".intercalate (log.map Operation.json) ++ "]" := by
    decide +kernel
  exact ⟨⟨before, ne, truncation_is_recognised.1 op part before ne⟩, logBefore, logNe,
    truncation_is_recognised.2 log logPart logBefore logNe⟩

end TaskReplicas
