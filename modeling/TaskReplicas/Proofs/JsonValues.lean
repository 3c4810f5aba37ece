import TaskReplicas.Proofs.MessageRoundTrip

/-!
# Values and the texts that spell them

A `Value` is JSON as a tree, its numbers as they are written. A text spells it out with blanks
between the lexemes and with strings and numbers written in any way (`Spelled`), and is read as the
tokens of the value (`Value.scan_of_spelled`). In its place among nested brackets a value is passed
over from its first token to its last, as long as there is room for its brackets
(`Value.passable`).
-/

set_option autoImplicit false

namespace TaskReplicas

namespace Json

/-! ## Values -/

/-- A numeral with the number that it denotes. There is one unless the numeral is beyond the range
of a double. -/
structure Literal where
  numeral : Numeral
  number : Number
  denotes : numeral.number = .ok number

/-- A JSON value. The entries of an object stand in their order, and a key may come again. -/
inductive Value
  | null
  | bool (b : Bool)
  | number (l : Literal)
  | string (s : String)
  | list (items : List Value)
  | object (entries : List (String × Value))

/-- An item is smaller than its list. -/
theorem Value.sizeOf_item_lt {items : List Value} {v : Value} (h : v ∈ items) :
    sizeOf v < sizeOf (list items) := by
  have lt := List.sizeOf_lt_of_mem h
  simp only [list.sizeOf_spec]
  omega

/-- A value of an entry is smaller than its object. -/
theorem Value.sizeOf_snd_lt {entries : List (String × Value)} {e : String × Value}
    (h : e ∈ entries) : sizeOf e.2 < sizeOf (object entries) := by
  have lt := List.sizeOf_lt_of_mem h
  obtain ⟨key, value⟩ := e
  simp only [Prod.mk.sizeOf_spec, object.sizeOf_spec] at lt ⊢
  omega

/-- Induction over the items and the entries of a value. -/
@[elab_as_elim, induction_eliminator]
theorem Value.induct {motive : Value → Prop} (null : motive null) (bool : ∀ b, motive (bool b))
    (number : ∀ l, motive (number l)) (string : ∀ s, motive (string s))
    (list : ∀ items, (∀ v ∈ items, motive v) → motive (list items))
    (object : ∀ entries, (∀ e ∈ entries, motive e.2) → motive (object entries)) :
    ∀ v, motive v
  | .null => null
  | .bool b => bool b
  | .number l => number l
  | .string s => string s
  | .list items => list items fun v _ => induct null bool number string list object v
  | .object entries => object entries fun e _ => induct null bool number string list object e.2
decreasing_by
  · exact sizeOf_item_lt ‹_›
  · exact sizeOf_snd_lt ‹_›

/-- What is written between blanks: a token, a number as its literal. -/
inductive Lexeme
  | openList
  | closeList
  | openObject
  | closeObject
  | comma
  | colon
  | null
  | bool (b : Bool)
  | number (l : Literal)
  | string (s : String)

/-- The token that a lexeme is read as. -/
def Lexeme.token : Lexeme → Token
  | openList => .openList
  | closeList => .closeList
  | openObject => .openObject
  | closeObject => .closeObject
  | comma => .comma
  | colon => .colon
  | null => .null
  | bool b => .bool b
  | number l => .number l.number
  | string s => .string s

/-- The texts of a lexeme. -/
def Lexeme.Spelled : Lexeme → List Char → Prop
  | number l, cs => cs = l.numeral.text
  | string s, cs => StringSpelled s.toList cs
  | x, cs => cs = x.token.text

/-- A text that spells out a row of lexemes, with any blanks before, between and behind them. -/
inductive Spelled : List Lexeme → List Char → Prop
  | nil : Spelled [] []
  | blank {c : Char} {xs : List Lexeme} {cs : List Char} (h : isBlank c = true)
    (rest : Spelled xs cs) : Spelled xs (c :: cs)
  | lexeme {x : Lexeme} {piece : List Char} {xs : List Lexeme} {cs : List Char}
    (h : x.Spelled piece) (rest : Spelled xs cs) : Spelled (x :: xs) (piece ++ cs)

namespace Value

/-- The lexemes of a value: commas between its items or entries and brackets around them. -/
def lexemes : Value → List Lexeme
  | null => [.null]
  | bool b => [.bool b]
  | number l => [.number l]
  | string s => [.string s]
  | list items => .openList :: [.comma].intercalate (items.map lexemes) ++ [.closeList]
  | object entries =>
    .openObject ::
      [.comma].intercalate (entries.map fun e => .string e.1 :: .colon :: e.2.lexemes) ++
        [.closeObject]
decreasing_by
  · exact sizeOf_item_lt ‹_›
  · exact sizeOf_snd_lt ‹_›

/-- A text of a value. -/
def SpelledBy (v : Value) (text : String) : Prop := Spelled v.lexemes text.toList

/-- What a value shows from outside. -/
def outline : Value → Outline
  | null => .null
  | bool b => .bool b
  | number l => .number l.number
  | string s => .string s
  | list _ => .list
  | object _ => .object

/-- How many brackets of a value are open at once. -/
def depth : Value → Nat
  | list items => (items.map depth).foldr max 0 + 1
  | object entries => (entries.map fun e => e.2.depth).foldr max 0 + 1
  | _ => 0
decreasing_by
  · exact sizeOf_item_lt ‹_›
  · exact sizeOf_snd_lt ‹_›

/-- The tokens of a value. -/
def tokens (v : Value) : List Token := v.lexemes.map Lexeme.token

/-- The tokens of an entry. -/
def entryTokens (e : String × Value) : List Token := .string e.1 :: .colon :: e.2.tokens

/-- What is made of rows with separators is made of each of them. -/
theorem map_intercalate {α β : Type} (f : α → β) (sep : List α) (rows : List (List α)) :
    (sep.intercalate rows).map f = (sep.map f).intercalate (rows.map (List.map f)) := by
  induction rows with
  | nil => rfl
  | cons row rows ih =>
    cases rows with
    | nil => simp [List.intercalate]
    | cons next rows =>
      rw [List.intercalate_cons_cons, List.map_append, List.map_append, ih]
      simp only [List.map_cons, List.intercalate_cons_cons]

/-- The tokens of a list are those of its items, with commas between them, in brackets. -/
theorem tokens_list (items : List Value) :
    (list items).tokens = .openList :: [.comma].intercalate (items.map tokens) ++ [.closeList] := by
  rw [tokens, lexemes, List.map_append, List.map_cons, map_intercalate, List.map_map]
  rfl

/-- The tokens of an object are those of its entries, with commas between them, in braces. -/
theorem tokens_object (entries : List (String × Value)) : (object entries).tokens =
    .openObject :: [.comma].intercalate (entries.map entryTokens) ++ [.closeObject] := by
  rw [tokens, lexemes, List.map_append, List.map_cons, map_intercalate, List.map_map]
  rfl

end Value

/-! ## Reading the lexemes -/

namespace Lexeme

/-- A token that is no number ends a number in front of it, however it is spelled. -/
theorem endsNumber_spelled {x : Lexeme} (hn : x.token.isNumber = false) {piece : List Char}
    (h : x.Spelled piece) (rest : List Char) : EndsNumber (piece ++ rest) := by
  have plain := Token.endsNumber_text (t := x.token)
  cases x with
  | number l => cases hn
  | string s =>
    obtain ⟨pieces, -, rfl⟩ := h
    exact ⟨by decide, by decide, by decide, by decide⟩
  | _ =>
    cases h
    exact plain trivial rfl rest

/-- A lexeme is read as its token however it is spelled. -/
theorem read_spelled {x : Lexeme} {piece : List Char} (h : x.Spelled piece) {rest : List Char}
    (hr : x.token.isNumber = true → EndsNumber rest) :
    ∃ c cs, piece ++ rest = c :: cs ∧ isBlank c = false ∧
      Token.read c cs = .ok (x.token, rest) := by
  have plain := Token.read_text (t := x.token)
  cases x with
  | number l =>
    cases h
    obtain ⟨c, cs, split, first⟩ := l.numeral.text_eq_cons
    obtain ⟨unblank, asNumber⟩ := Token.read_number first (cs ++ rest)
    refine ⟨c, cs ++ rest, by rw [split, List.cons_append], unblank, ?_⟩
    rw [asNumber, ← List.cons_append, ← split, Number.read_numeral l.numeral (hr rfl), l.denotes]
    rfl
  | string s =>
    obtain ⟨pieces, spelled, rfl⟩ := h
    refine ⟨'"', pieces.flatten ++ '"' :: rest, by simp, rfl, ?_⟩
    show (unquote _).map _ = _
    rw [unquote_spelled spelled]
    show Except.ok (Token.string (String.ofList s.toList), rest) = _
    rw [String.ofList_toList]
    rfl
  | _ =>
    cases h
    exact plain trivial fun number => absurd number Bool.false_ne_true

end Lexeme

/-- Behind a number, blanks or another kind of lexeme end it. -/
theorem endsNumber_of_spelled {xs : List Lexeme} {cs : List Char} (h : Spelled xs cs)
    (first : ∀ t ∈ (xs.map Lexeme.token).head?, t.isNumber = false) : EndsNumber cs := by
  cases h with
  | nil => trivial
  | blank h rest => exact endsNumber_blank h _
  | lexeme h rest => exact Lexeme.endsNumber_spelled (first _ rfl) h _

/-- **Lexemes are read as their tokens** from every text that spells them out. -/
theorem scan_of_spelled {xs : List Lexeme} {cs : List Char} (h : Spelled xs cs)
    (apart : Apart (xs.map Lexeme.token)) : scan cs = xs.map Lexeme.token := by
  induction h with
  | nil => rw [scan, scanFrom, List.reverse_nil, List.map_nil]
  | blank hb rest ih => rw [scan_blank hb, ih apart]
  | @lexeme x piece xs cs h rest ih =>
    obtain ⟨c, tail, split, hb, hr⟩ := Lexeme.read_spelled h fun hn =>
      endsNumber_of_spelled rest (apart.behind hn)
    rw [split, scan_token hb hr, ih apart.tail, List.map_cons]

/-- A lexeme may stand as its token is written. -/
theorem Spelled.written {x : Lexeme} {xs : List Lexeme} {cs : List Char}
    (h : x.Spelled x.token.text) (rest : Spelled xs cs) : Spelled (x :: xs) (x.token.text ++ cs) :=
  .lexeme h rest

/-- A string may stand as it is quoted. -/
theorem Lexeme.spelled_quote (s : String) : (Lexeme.string s).Spelled (Token.string s).text := by
  refine ⟨s.toList.map escape, charsSpelled_escape s.toList, ?_⟩
  rw [← List.flatMap_def]
  rfl

namespace Value

/-- In a value no two numbers stand side by side. -/
theorem apart_tokens (v : Value) : Apart v.tokens := by
  induction v with
  | list items ih =>
    rw [tokens_list]
    refine apart_bracketed (intercalate_induction .nil apart_comma fun row hrow => ?_) rfl rfl
    obtain ⟨v, hv, rfl⟩ := List.mem_map.mp hrow
    exact ih v hv
  | object entries ih =>
    rw [tokens_object]
    refine apart_bracketed (intercalate_induction .nil apart_comma fun row hrow => ?_) rfl rfl
    obtain ⟨e, he, rfl⟩ := List.mem_map.mp hrow
    have colon : Apart (.colon :: e.2.tokens) :=
      List.isChain_cons.mpr ⟨fun _ _ => .inl rfl, ih e he⟩
    exact List.isChain_cons.mpr ⟨fun _ _ => .inl rfl, colon⟩
  | _ =>
    rw [tokens, lexemes]
    exact .singleton _

/-- A value is read as its tokens from every text that spells it out. -/
theorem scan_of_spelled {v : Value} {text : String} (h : v.SpelledBy text) :
    scan text.toList = v.tokens := Json.scan_of_spelled h v.apart_tokens

end Value

/-! ## Passing over -/

/-- The place behind a comma in a bracket. -/
def Bracket.behindComma : Bracket → Place
  | list => .item
  | object => .key

/-- The token that closes a bracket. -/
def Bracket.closing : Bracket → Token
  | list => .closeList
  | object => .closeObject

namespace Nesting

/-- The tokens that lead from one place in nested brackets to another. -/
inductive Passes : Nesting → List Token → Nesting → Prop
  | nil {n : Nesting} : Passes n [] n
  | cons {n m k : Nesting} {t : Token} {ts : List Token} (h : n.next t = .ok (some m))
    (rest : Passes m ts k) : Passes n (t :: ts) k

/-- Tokens lead on from where those before them led. -/
theorem Passes.append {n m k : Nesting} {ts us : List Token} (h : Passes n ts m)
    (h' : Passes m us k) : Passes n (ts ++ us) k := by
  induction h with
  | nil => exact h'
  | cons step _ ih => exact .cons step (ih h')

/-- A place where a value may stand. -/
def TakesValue (n : Nesting) : Prop :=
  n.place = .itemOrClose ∨ n.place = .item ∨ n.place = .entry

/-- Where a value may stand, every token but a closing bracket begins one. -/
theorem next_value {n : Nesting} (h : n.TakesValue) {t : Token} (ht : t ≠ .closeList) :
    n.next t = n.value t := by
  rcases h with h | h | h <;> simp [next, h, ht]

/-- The tokens that lead from an opening bracket to where the closing bracket may stand. -/
def PassesInside (b : Bracket) (outer : List Bracket) (room : Nat) (ts : List Token) : Prop :=
  ∃ place, Passes ⟨b, outer, b.start, room⟩ ts ⟨b, outer, place, room⟩ ∧
    next ⟨b, outer, place, room⟩ b.closing = close ⟨b, outer, place, room⟩

variable {b : Bracket} {outer : List Bracket} {room : Nat}

/-- Rows that lead from the places where they may begin to behind a value lead inside a bracket with
commas between them. -/
theorem passesInside_rows {rows : List (List Token)}
    (h : ∀ row ∈ rows, ∀ place, place = b.start ∨ place = b.behindComma →
      Passes ⟨b, outer, place, room⟩ row ⟨b, outer, b.afterValue, room⟩) :
    PassesInside b outer room ([.comma].intercalate rows) := by
  cases rows with
  | nil => exact ⟨b.start, .nil, by cases b <;> rfl⟩
  | cons row rows =>
    have others : Passes ⟨b, outer, b.afterValue, room⟩ (rows.flatMap (Token.comma :: ·))
        ⟨b, outer, b.afterValue, room⟩ := by
      have later := fun r hr => h r (List.mem_cons_of_mem _ hr)
      clear h
      induction rows with
      | nil => exact .nil
      | cons row rows ih =>
        have comma : next ⟨b, outer, b.afterValue, room⟩ .comma =
            .ok (some ⟨b, outer, b.behindComma, room⟩) := by cases b <;> rfl
        have here := later row List.mem_cons_self b.behindComma (.inr rfl)
        rw [List.flatMap_cons]
        exact (Passes.cons comma here).append
          (ih fun r hr => later r (List.mem_cons_of_mem _ hr))
    rw [intercalate_comma]
    exact ⟨b.afterValue, (h row List.mem_cons_self b.start (.inl rfl)).append others,
      by cases b <;> rfl⟩

/-- What leads inside a bracket leads over it, with the bracket around it. -/
theorem PassesInside.passes {inner : Bracket} {place : Place} {ts : List Token} {opening : Token}
    (h : PassesInside b (inner :: outer) room ts)
    (opens : next ⟨inner, outer, place, room + 1⟩ opening =
      .ok (some ⟨b, inner :: outer, b.start, room⟩)) :
    Passes ⟨inner, outer, place, room + 1⟩ (opening :: ts ++ [b.closing])
      ⟨inner, outer, inner.afterValue, room + 1⟩ := by
  obtain ⟨last, inside, closes⟩ := h
  exact (Passes.cons opens inside).append (.cons closes .nil)

end Nesting

/-- The largest of numbers is at most a bound just in case each of them is. -/
theorem foldr_max_le_iff {ns : List Nat} {k : Nat} :
    ns.foldr max 0 ≤ k ↔ ∀ n ∈ ns, n ≤ k := by
  induction ns with
  | nil => simp
  | cons n ns ih => rw [List.foldr_cons, Nat.max_le, ih, List.forall_mem_cons]

namespace Value

open Nesting (Passes PassesInside TakesValue)

/-- A list fits where its items fit one level further in. -/
theorem depth_list_le_iff {items : List Value} {room : Nat} :
    (list items).depth ≤ room + 1 ↔ ∀ v ∈ items, v.depth ≤ room := by
  rw [depth, Nat.add_le_add_iff_right, foldr_max_le_iff, List.forall_mem_map]

/-- An object fits where its values fit one level further in. -/
theorem depth_object_le_iff {entries : List (String × Value)} {room : Nat} :
    (object entries).depth ≤ room + 1 ↔ ∀ e ∈ entries, e.2.depth ≤ room := by
  rw [depth, Nat.add_le_add_iff_right, foldr_max_le_iff, List.forall_mem_map]

/-- A value is passed over where one may stand, if there is room for its brackets. -/
def Passable (v : Value) : Prop :=
  ∀ n : Nesting, n.TakesValue → v.depth ≤ n.room →
    Passes n v.tokens { n with place := n.inner.afterValue }

variable {outer : List Bracket} {room : Nat}

/-- The items of a list lead from one bracket to the other. -/
theorem passesInside_items {items : List Value} (h : ∀ v ∈ items, v.Passable)
    (hd : (list items).depth ≤ room + 1) :
    PassesInside .list outer room ([.comma].intercalate (items.map tokens)) := by
  refine Nesting.passesInside_rows fun row hrow place hp => ?_
  obtain ⟨v, hv, rfl⟩ := List.mem_map.mp hrow
  have takes : TakesValue ⟨.list, outer, place, room⟩ := by
    rcases hp with rfl | rfl
    · exact .inl rfl
    · exact .inr (.inl rfl)
  exact h v hv _ takes (depth_list_le_iff.mp hd v hv)

/-- The entries of an object lead from one brace to the other. -/
theorem passesInside_entries {entries : List (String × Value)}
    (h : ∀ e ∈ entries, e.2.Passable) (hd : (object entries).depth ≤ room + 1) :
    PassesInside .object outer room ([.comma].intercalate (entries.map entryTokens)) := by
  refine Nesting.passesInside_rows fun row hrow place hp => ?_
  obtain ⟨e, he, rfl⟩ := List.mem_map.mp hrow
  have value := h e he ⟨.object, outer, .entry, room⟩ (.inr (.inr rfl))
    (depth_object_le_iff.mp hd e he)
  have key : Nesting.next ⟨.object, outer, place, room⟩ (.string e.1) =
      .ok (some ⟨.object, outer, .colon, room⟩) := by
    rcases hp with rfl | rfl <;> rfl
  exact .cons key (.cons rfl value)

/-- **A value is passed over from its first token to its last.** -/
theorem passable (v : Value) : v.Passable := by
  induction v with
  | list items ih =>
    rintro ⟨inner, outer, place, room⟩ takes hd
    cases room with
    | zero => simp [depth] at hd
    | succ room =>
      rw [tokens_list]
      exact (passesInside_items ih hd).passes (Nesting.next_value takes (by decide))
  | object entries ih =>
    rintro ⟨inner, outer, place, room⟩ takes hd
    cases room with
    | zero => simp [depth] at hd
    | succ room =>
      rw [tokens_object]
      exact (passesInside_entries ih hd).passes (Nesting.next_value takes (by decide))
  | _ =>
    intro n takes hd
    rw [tokens, lexemes]
    exact .cons (Nesting.next_value takes (by simp [Lexeme.token])) .nil

/-! ### The tokens of a value by its outline -/

/-- A value without brackets is one token, and its outline tells which. -/
theorem tokens_plain {v : Value} (h : Reading.bracket? v.outline = none) :
    v.tokens = [v.outline.token] := by
  cases v with
  | list items => cases h
  | object entries => cases h
  | _ =>
    rw [tokens, lexemes]
    rfl

/-- The first token of a value is that of its outline. -/
theorem tokens_eq_cons (v : Value) : ∃ ts, v.tokens = v.outline.token :: ts := by
  cases v with
  | list items => exact ⟨_, tokens_list items⟩
  | object entries => exact ⟨_, tokens_object entries⟩
  | _ => exact ⟨_, tokens_plain rfl⟩

/-- A list or an object stands between its brackets. -/
theorem tokens_bracketed {v : Value} {b : Bracket} (h : Reading.bracket? v.outline = some b) :
    0 < v.depth ∧ ∃ inside, v.tokens = v.outline.token :: inside ++ [b.closing] ∧
      ∀ outer room, v.depth ≤ room + 1 → PassesInside b outer room inside := by
  cases v with
  | list items =>
    cases h
    refine ⟨by rw [depth]; exact Nat.succ_pos _, _, tokens_list items, fun outer room hd => ?_⟩
    exact passesInside_items (fun v _ => v.passable) hd
  | object entries =>
    cases h
    refine ⟨by rw [depth]; exact Nat.succ_pos _, _, tokens_object entries, fun outer room hd => ?_⟩
    exact passesInside_entries (fun e _ => e.2.passable) hd
  | _ => cases h

end Value

end Json

end TaskReplicas
