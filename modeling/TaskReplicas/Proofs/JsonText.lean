import Mathlib.Data.List.Chain
import TaskReplicas.Proofs.JsonGrammar

/-!
# Reading tokens back

What is written is read back. A quoted string is read up to its closing quote and gives the
characters that were quoted (`unquote_quote`); an integer of 64 bits is read up to where its digits
end and gives the integer (`Number.read_integer`). With these a token is read back from its text
(`Token.read_text`), and a row of tokens from any text that spells it out: `Spaced` puts blanks
before, between and behind the tokens as it pleases, and `scan_of_spaced` reads the row back. Only
two numbers in a row could run into each other, and `Legible` rows have none.
-/

set_option autoImplicit false

namespace TaskReplicas.Json

/-! ## Strings -/

/-- A character is escaped by a letter, or by the digits of its unit, or stands as it is. -/
theorem escape_cases (c : Char) :
    (∃ e, escape c = ['\\', e] ∧ (e, c) ∈ escapeLetters) ∨
    (c.toNat < 0x20 ∧ escape c =
      ['\\', 'u', '0', '0', Nat.digitChar (c.toNat / 16), Nat.digitChar (c.toNat % 16)]) ∨
    (c ≠ '"' ∧ c ≠ '\\' ∧ ¬ c.toNat < 0x20 ∧ escape c = [c]) := by
  unfold escape
  by_cases quote : c = '"'
  · subst quote
    exact .inl ⟨'"', rfl, by decide⟩
  by_cases backslash : c = '\\'
  · subst backslash
    exact .inl ⟨'\\', rfl, by decide⟩
  by_cases backspace : c = '\x08'
  · subst backspace
    exact .inl ⟨'b', rfl, by decide⟩
  by_cases feed : c = '\x0c'
  · subst feed
    exact .inl ⟨'f', rfl, by decide⟩
  by_cases line : c = '\n'
  · subst line
    exact .inl ⟨'n', rfl, by decide⟩
  by_cases carriage : c = '\r'
  · subst carriage
    exact .inl ⟨'r', rfl, by decide⟩
  by_cases tab : c = '\t'
  · subst tab
    exact .inl ⟨'t', rfl, by decide⟩
  rw [if_neg quote, if_neg backslash, if_neg backspace, if_neg feed, if_neg line, if_neg carriage,
    if_neg tab]
  by_cases control : c.toNat < 0x20
  · exact .inr (.inl ⟨control, if_pos control⟩)
  · exact .inr (.inr ⟨quote, backslash, control, if_neg control⟩)

/-- The way in which a character is written is one of the ways to write it. -/
theorem charSpelled_escape (c : Char) : CharSpelled c (escape c) := by
  rcases escape_cases c with ⟨e, he, letter⟩ | ⟨control, he⟩ | ⟨quote, backslash, control, he⟩
  · rw [he]
    exact .letter letter
  · rw [he]
    refine .unit (.cons ⟨by omega, .inl ?_⟩ (.cons ⟨by omega, .inl ?_⟩
      (.cons ⟨by omega, .inl ?_⟩ (.cons ⟨by omega, .inl rfl⟩ .nil))))
    · rw [Nat.div_eq_of_lt (by omega)]
      rfl
    · rw [Nat.div_eq_of_lt (by omega)]
      rfl
    · rw [Nat.mod_eq_of_lt (by omega)]
  · rw [he]
    exact .plain quote backslash (Nat.not_lt.mp control)

/-- The way in which a string is written is one of the ways to write it. -/
theorem charsSpelled_escape (s : List Char) : List.Forall₂ CharSpelled s (s.map escape) := by
  rw [List.forall₂_map_right_iff]
  exact List.forall₂_same.mpr fun c _ => charSpelled_escape c

/-- A character is read back from the way in which it is written. -/
theorem unquoteFrom_escape (before : List Char) (c : Char) (rest : List Char) :
    unquoteFrom before (escape c ++ rest) = unquoteFrom (c :: before) rest :=
  unquoteFrom_spelled (charSpelled_escape c) before rest

/-- A quoted string is read back. -/
theorem unquote_quote (s rest : List Char) :
    unquote (s.flatMap escape ++ '"' :: rest) = .ok (s, rest) := by
  rw [List.flatMap_def]
  exact unquote_spelled (charsSpelled_escape s) rest

/-! ## Integers -/

namespace Number

/-- A whole number from zero on is written as its digits. -/
theorem toList_integer_ofNat (n : Nat) :
    (Decimal.integer (.ofNat n)).toList = Decimal.digits n := String.toList_ofList

/-- A whole number below zero is written as a minus and digits. -/
theorem toList_integer_negSucc (n : Nat) :
    (Decimal.integer (.negSucc n)).toList = '-' :: Decimal.digits (n + 1) := by
  rw [Decimal.integer, Decimal.natural, String.toList_append]
  exact congrArg ('-' :: ·) String.toList_ofList

/-- An integer is written as a numeral that is that integer. -/
theorem exists_numeral (n : Int) :
    ∃ m : Numeral, m.text = (Decimal.integer n).toList ∧ m.integer? = some n := by
  cases n with
  | ofNat n =>
    refine ⟨⟨false, n, none, none⟩, ?_, rfl⟩
    rw [toList_integer_ofNat]
    simp [Numeral.text, fractionText, exponentText]
  | negSucc n =>
    refine ⟨⟨true, n + 1, none, none⟩, ?_, rfl⟩
    rw [toList_integer_negSucc]
    simp [Numeral.text, fractionText, exponentText]

/-- A whole number of 64 bits, with a sign or without, is read back as it was written. -/
theorem read_integer {n : Int} (low : -2 ^ 63 ≤ n) (high : n < 2 ^ 64) {rest : List Char}
    (hr : EndsNumber rest) :
    read ((Decimal.integer n).toList ++ rest) = .ok (integer n, rest) := by
  obtain ⟨m, text, integer⟩ := exists_numeral n
  rw [← text, read_numeral m hr, Numeral.number_eq_integer_iff.mpr ⟨integer, low, high⟩]
  rfl

/-- A whole number starts with a minus or a digit. -/
theorem integer_eq_cons (n : Int) :
    ∃ c cs, (Decimal.integer n).toList = c :: cs ∧ (c = '-' ∨ c.isDigit = true) := by
  obtain ⟨m, text, -⟩ := exists_numeral n
  rw [← text]
  exact m.text_eq_cons

end Number

/-! ## Tokens -/

namespace Token

/-- Whether a token is a number. -/
def isNumber : Token → Bool
  | number _ => true
  | _ => false

/-- A token that is read back: its number, if it is one, is an integer of 64 bits. -/
def Legible : Token → Prop
  | number (.integer n) => -2 ^ 63 ≤ n ∧ n < 2 ^ 64
  | number (.double _) => False
  | broken .. => False
  | _ => True

/-- A token that is no number ends a number in front of it. -/
theorem endsNumber_text {t : Token} (h : t.Legible) (hn : t.isNumber = false) (rest : List Char) :
    EndsNumber (t.text ++ rest) := by
  have mark : ∀ c : Char, c.isDigit = false → c ≠ '.' → c ≠ 'e' → c ≠ 'E' → ∀ cs,
      EndsNumber (c :: cs) := fun c h₁ h₂ h₃ h₄ _ => ⟨h₁, h₂, h₃, h₄⟩
  cases t with
  | number n => cases hn
  | broken quoted defect => exact h.elim
  | bool b => cases b <;> exact mark _ (by decide) (by decide) (by decide) (by decide) _
  | _ => exact mark _ (by decide) (by decide) (by decide) (by decide) _

/-- Where a minus or a digit stands, a number is read. -/
theorem read_number {c : Char} (h : c = '-' ∨ c.isDigit = true) (cs : List Char) :
    isBlank c = false ∧
      read c cs = (Number.read (c :: cs)).map fun (n, rest) => (number n, rest) := by
  have other : ∀ d : Char, d ≠ '-' → d.isDigit = false → c ≠ d := by
    rintro d hd hd' rfl
    exact h.elim hd fun digit => absurd digit (by simp [hd'])
  have mark : ofMark? c = none := by
    simp [ofMark?, other '[' (by decide) (by decide), other ']' (by decide) (by decide),
      other '{' (by decide) (by decide), other '}' (by decide) (by decide),
      other ',' (by decide) (by decide), other ':' (by decide) (by decide)]
  have word : ofWord? c = none := by
    simp [ofWord?, other 'n' (by decide) (by decide), other 't' (by decide) (by decide),
      other 'f' (by decide) (by decide)]
  constructor
  · simp [isBlank, other ' ' (by decide) (by decide), other '\t' (by decide) (by decide),
      other '\n' (by decide) (by decide), other '\r' (by decide) (by decide)]
  · unfold read
    rw [mark, word]
    show (if c = '"' then _ else _) = _
    rw [if_neg (other '"' (by decide) (by decide)), if_pos h]

/-- A legible token is read back, where what follows does not go on with it. -/
theorem read_text {t : Token} (h : t.Legible) {rest : List Char}
    (hr : t.isNumber = true → EndsNumber rest) :
    ∃ c cs, t.text ++ rest = c :: cs ∧ isBlank c = false ∧ read c cs = .ok (t, rest) := by
  cases t with
  | broken quoted defect => exact h.elim
  | bool b =>
    cases b with
    | true => exact ⟨'t', _, rfl, rfl, rfl⟩
    | false => exact ⟨'f', _, rfl, rfl, rfl⟩
  | number n =>
    cases n with
    | double bits => exact h.elim
    | integer n =>
      obtain ⟨c, cs, split, first⟩ := Number.integer_eq_cons n
      have back := Number.read_integer h.1 h.2 (hr rfl)
      obtain ⟨unblank, asNumber⟩ := read_number first (cs ++ rest)
      refine ⟨c, cs ++ rest, ?_, unblank, ?_⟩
      · show (Decimal.integer n).toList ++ rest = _
        rw [split, List.cons_append]
      · rw [asNumber, ← List.cons_append, ← split, back]
        rfl
  | string s =>
    refine ⟨'"', s.toList.flatMap escape ++ '"' :: rest, ?_, rfl, ?_⟩
    · show '"' :: s.toList.flatMap escape ++ ['"'] ++ rest = _
      rw [List.append_assoc, List.cons_append, List.singleton_append]
    · show (unquote _).map _ = _
      rw [unquote_quote]
      show Except.ok (string (String.ofList s.toList), rest) = _
      rw [String.ofList_toList]
  | _ => exact ⟨_, _, rfl, rfl, rfl⟩

end Token

/-! ## Rows of tokens -/

/-- A text that spells out a row of tokens, with any blanks before, between and behind them. -/
inductive Spaced : List Token → List Char → Prop
  | nil : Spaced [] []
  | blank {c : Char} {ts : List Token} {cs : List Char} (h : isBlank c = true)
    (rest : Spaced ts cs) : Spaced ts (c :: cs)
  | token (t : Token) {ts : List Token} {cs : List Char} (rest : Spaced ts cs) :
    Spaced (t :: ts) (t.text ++ cs)

/-- A row of tokens without two numbers side by side, which could run into each other. -/
def Apart (ts : List Token) : Prop :=
  ts.IsChain fun t u => t.isNumber = false ∨ u.isNumber = false

/-- A row of tokens that are read back, without two numbers that could run into each other. -/
structure Legible (ts : List Token) : Prop where
  each : ∀ t ∈ ts, t.Legible
  apart : ts.IsChain fun t u => t.isNumber = false ∨ u.isNumber = false

/-- Tokens without any blanks are one of the texts that spell them out. -/
theorem spaced_written (ts : List Token) : Spaced ts (written ts) := by
  induction ts with
  | nil => exact .nil
  | cons t ts ih => exact .token t ih

/-- A blank is passed over. -/
theorem scan_blank {c : Char} (h : isBlank c = true) (cs : List Char) :
    scan (c :: cs) = scan cs := by
  rw [scan, scanFrom, if_pos h, scan]

/-- A token that is read is followed by those of the rest. -/
theorem scan_token {c : Char} {cs rest : List Char} {t : Token} (hb : isBlank c = false)
    (h : Token.read c cs = .ok (t, rest)) : scan (c :: cs) = t :: scan rest := by
  rw [scan, scanFrom, if_neg (by simp [hb])]
  split
  · next t' rest' hr =>
    cases h.symm.trans hr
    exact scanFrom_eq_append [t] rest
  · next d hr => cases h.symm.trans hr

/-- A blank ends a number. -/
theorem endsNumber_blank {c : Char} (h : isBlank c = true) (cs : List Char) :
    EndsNumber (c :: cs) := by
  simp only [isBlank, Bool.or_eq_true, decide_eq_true_eq] at h
  rcases h with ((rfl | rfl) | rfl) | rfl <;>
    exact ⟨by decide, by decide, by decide, by decide⟩

/-- Behind a number no other stands. -/
theorem Apart.behind {t : Token} {ts : List Token} (h : Apart (t :: ts))
    (hn : t.isNumber = true) : ∀ u ∈ ts.head?, u.isNumber = false := by
  intro u hu
  cases ts with
  | nil => cases hu
  | cons v ts =>
    cases hu
    have := (List.isChain_cons_cons.mp h).1
    simpa [hn] using this

/-- Behind a number, blanks or another kind of token end it. -/
theorem endsNumber_of_spaced {ts : List Token} {cs : List Char} (h : Spaced ts cs)
    (each : ∀ t ∈ ts, t.Legible) (first : ∀ t ∈ ts.head?, t.isNumber = false) : EndsNumber cs := by
  cases h with
  | nil => trivial
  | blank h rest => exact endsNumber_blank h _
  | token t rest => exact Token.endsNumber_text (each t List.mem_cons_self) (first t rfl) _

/-- A legible row is legible from its second token on. -/
theorem Legible.tail {t : Token} {ts : List Token} (h : Legible (t :: ts)) : Legible ts :=
  ⟨fun u hu => h.each u (List.mem_cons_of_mem _ hu), h.apart.tail⟩

/-- In a row that is read back, what follows a number ends it. -/
theorem Legible.ends {t : Token} {ts : List Token} (h : Legible (t :: ts)) {cs : List Char}
    (rest : Spaced ts cs) (hn : t.isNumber = true) : EndsNumber cs :=
  endsNumber_of_spaced rest h.tail.each (Apart.behind h.apart hn)

/-- **Tokens are read back** from every text that spells them out. -/
theorem scan_of_spaced {ts : List Token} {cs : List Char} (h : Spaced ts cs)
    (legible : Legible ts) : scan cs = ts := by
  induction h with
  | nil => rw [scan, scanFrom, List.reverse_nil]
  | blank hb rest ih => rw [scan_blank hb, ih legible]
  | @token t ts cs rest ih =>
    obtain ⟨c, tail, split, hb, hr⟩ :=
      Token.read_text (legible.each t List.mem_cons_self) (legible.ends rest)
    rw [split, scan_token hb hr, ih legible.tail]

end TaskReplicas.Json
