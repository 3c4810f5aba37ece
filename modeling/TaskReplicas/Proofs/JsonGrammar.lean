import Mathlib.Data.List.Forall2
import TaskReplicas.Json.Token

/-!
# How strings and numbers may be written

Strict JSON leaves a writer some freedom. A character stands as it is or is escaped, by a letter or
by 16-bit units with hexadecimal digits of either case (`CharSpelled`); a number has a whole part
without a leading zero, and may have a fraction and an exponent (`Numeral`). However they are
written, a string is read as its characters (`unquote_spelled`) and a number as what its parts come
to (`Number.read_numeral`). A numeral is an integer exactly when it has neither fraction nor
exponent, is not minus zero and fits 64 bits (`Numeral.number_eq_integer_iff`).
-/

set_option autoImplicit false

namespace TaskReplicas.Json

/-! ## Strings -/

/-- A hexadecimal digit, of either case. -/
def HexSpelled (d : Nat) (c : Char) : Prop :=
  d < 16 ∧ (c = Nat.digitChar d ∨ c = (Nat.digitChar d).toUpper)

/-- The four hexadecimal digits of a 16-bit unit. -/
def UnitSpelled (unit : Nat) (cs : List Char) : Prop :=
  List.Forall₂ HexSpelled
    [unit / 0x1000, unit / 0x100 % 0x10, unit / 0x10 % 0x10, unit % 0x10] cs

/-- The characters that one character behind a backslash stands for. -/
def escapeLetters : List (Char × Char) :=
  [('"', '"'), ('\\', '\\'), ('/', '/'), ('b', '\x08'), ('f', '\x0c'), ('n', '\n'), ('r', '\r'),
    ('t', '\t')]

/-- A character between quotes. -/
inductive CharSpelled (c : Char) : List Char → Prop
  /-- The character itself, when it is neither a quote nor a backslash nor below a blank. -/
  | plain (quote : c ≠ '"') (backslash : c ≠ '\\') (visible : 0x20 ≤ c.toNat) : CharSpelled c [c]
  /-- A letter behind a backslash. -/
  | letter {e : Char} (h : (e, c) ∈ escapeLetters) : CharSpelled c ['\\', e]
  /-- The 16-bit unit of the character. -/
  | unit {digits : List Char} (h : UnitSpelled c.toNat digits) :
    CharSpelled c ('\\' :: 'u' :: digits)
  /-- The two units of a surrogate pair. -/
  | pair {first second : List Char} (above : 0x10000 ≤ c.toNat)
    (high : UnitSpelled (0xd800 + (c.toNat - 0x10000) / 0x400) first)
    (low : UnitSpelled (0xdc00 + (c.toNat - 0x10000) % 0x400) second) :
    CharSpelled c ('\\' :: 'u' :: (first ++ '\\' :: 'u' :: second))

/-- A string between quotes, each of its characters spelled in its own way. -/
def StringSpelled (s cs : List Char) : Prop :=
  ∃ pieces, List.Forall₂ CharSpelled s pieces ∧ cs = '"' :: pieces.flatten ++ ['"']

/-- A hexadecimal digit is read in either case. -/
theorem hexValue?_spelled {d : Nat} {c : Char} (h : HexSpelled d c) : hexValue? c = some d := by
  have lower : ∀ d < 16, hexValue? (Nat.digitChar d) = some d := by decide
  have upper : ∀ d < 16, hexValue? (Nat.digitChar d).toUpper = some d := by decide
  obtain ⟨small, rfl | rfl⟩ := h
  · exact lower d small
  · exact upper d small

/-- Four hexadecimal digits are read as the unit that they spell. -/
theorem hexUnit_spelled {unit : Nat} {cs : List Char} (h : UnitSpelled unit cs)
    (rest : List Char) : hexUnit (cs ++ rest) = .ok (unit, rest) := by
  obtain ⟨a, _, ha, three, rfl⟩ := List.forall₂_cons_left_iff.mp h
  obtain ⟨b, _, hb, two, rfl⟩ := List.forall₂_cons_left_iff.mp three
  obtain ⟨c, _, hc, one, rfl⟩ := List.forall₂_cons_left_iff.mp two
  obtain ⟨d, _, hd, none, rfl⟩ := List.forall₂_cons_left_iff.mp one
  cases none
  have sum : ((unit / 0x1000 * 16 + unit / 0x100 % 0x10) * 16 + unit / 0x10 % 0x10) * 16 +
      unit % 0x10 = unit := by omega
  simp only [List.cons_append, List.nil_append, hexUnit, hexValue?_spelled ha,
    hexValue?_spelled hb, hexValue?_spelled hc, hexValue?_spelled hd, sum]

/-- Behind a u stands a unit. -/
theorem escaped_unit (cs : List Char) : escaped ('u' :: cs) = escapedUnit cs := by
  have unlettered : escapedLetter? 'u' = none := by decide
  rw [escaped, unlettered]
  rfl

/-- No character is a surrogate. -/
theorem toNat_not_surrogate (c : Char) : c.toNat < 0xd800 ∨ 0xe000 ≤ c.toNat :=
  c.valid.imp_right fun h => Nat.succ_le_of_lt h.1

/-- A character of one unit is read from its unit. -/
theorem escapedUnit_unit {c : Char} {digits : List Char} (h : UnitSpelled c.toNat digits)
    (rest : List Char) : escapedUnit (digits ++ rest) = .ok (c, rest) := by
  simp only [escapedUnit, hexUnit_spelled h]
  show (if _ then _ else _) = _
  rw [if_pos (toNat_not_surrogate c), Char.ofNat_toNat]

/-- The second unit of a pair completes the character that the first one began. -/
theorem trailingUnit_spelled {c : Char} {digits : List Char} (above : 0x10000 ≤ c.toNat)
    (h : UnitSpelled (0xdc00 + (c.toNat - 0x10000) % 0x400) digits) (rest : List Char) :
    trailingUnit (0xd800 + (c.toNat - 0x10000) / 0x400) ('\\' :: 'u' :: digits ++ rest) =
      .ok (c, rest) := by
  have low : 0xdc00 ≤ 0xdc00 + (c.toNat - 0x10000) % 0x400 ∧
      0xdc00 + (c.toNat - 0x10000) % 0x400 < 0xe000 := by omega
  have sum : 0x10000 + (0xd800 + (c.toNat - 0x10000) / 0x400 - 0xd800) * 0x400 +
      (0xdc00 + (c.toNat - 0x10000) % 0x400 - 0xdc00) = c.toNat := by omega
  simp only [List.cons_append, trailingUnit, hexUnit_spelled h, bind, Except.bind, if_pos low, sum,
    Char.ofNat_toNat]

/-- A character of two units is read from its surrogates. -/
theorem escapedUnit_pair {c : Char} {first second : List Char} (above : 0x10000 ≤ c.toNat)
    (high : UnitSpelled (0xd800 + (c.toNat - 0x10000) / 0x400) first)
    (low : UnitSpelled (0xdc00 + (c.toNat - 0x10000) % 0x400) second) (rest : List Char) :
    escapedUnit (first ++ ('\\' :: 'u' :: second ++ rest)) = .ok (c, rest) := by
  have below : c.toNat < 0x110000 := by
    rcases c.valid with h | h
    · exact Nat.lt_trans h (by decide)
    · exact h.2
  have surrogate : ¬ (0xd800 + (c.toNat - 0x10000) / 0x400 < 0xd800 ∨
      0xe000 ≤ 0xd800 + (c.toNat - 0x10000) / 0x400) := by omega
  have leading : 0xd800 + (c.toNat - 0x10000) / 0x400 < 0xdc00 := by omega
  simp only [escapedUnit, hexUnit_spelled high, bind, Except.bind, if_neg surrogate,
    if_pos leading, trailingUnit_spelled above low]

/-- An escape gives one character of a string. -/
theorem unquoteFrom_backslash {before rest rest' : List Char} {c : Char}
    (h : escaped rest = .ok (c, rest')) :
    unquoteFrom before ('\\' :: rest) = unquoteFrom (c :: before) rest' := by
  rw [unquoteFrom, if_neg (by decide), if_pos rfl]
  split
  · next e tail he =>
    cases h.symm.trans he
    rfl
  · next d he => cases h.symm.trans he

/-- An escape of one letter is read as its character. -/
theorem escaped_letter {e c : Char} (h : (e, c) ∈ escapeLetters) (rest : List Char) :
    escaped (e :: rest) = .ok (c, rest) := by
  have letters : ∀ p ∈ escapeLetters, escapedLetter? p.1 = some p.2 := by decide
  rw [escaped, letters _ h]

/-- A character is read however it is spelled. -/
theorem unquoteFrom_spelled {c : Char} {cs : List Char} (h : CharSpelled c cs)
    (before rest : List Char) :
    unquoteFrom before (cs ++ rest) = unquoteFrom (c :: before) rest := by
  cases h with
  | plain quote backslash visible =>
    rw [List.singleton_append, unquoteFrom, if_neg quote, if_neg backslash,
      if_neg (Nat.not_lt.mpr visible)]
  | letter h => exact unquoteFrom_backslash (escaped_letter h rest)
  | unit h =>
    rw [List.cons_append, List.cons_append, unquoteFrom_backslash]
    rw [escaped_unit, escapedUnit_unit h]
  | pair above high low =>
    rw [List.cons_append, List.cons_append, List.append_assoc, unquoteFrom_backslash]
    rw [escaped_unit, escapedUnit_pair above high low]

/-- A string is read however its characters are spelled. -/
theorem unquote_spelled {s : List Char} {pieces : List (List Char)}
    (h : List.Forall₂ CharSpelled s pieces) (rest : List Char) :
    unquote (pieces.flatten ++ '"' :: rest) = .ok (s, rest) := by
  -- the reader keeps what it has read, so the induction is over any of that
  have from_ (before : List Char) : unquoteFrom before (pieces.flatten ++ '"' :: rest) =
      .ok (before.reverse ++ s, rest) := by
    induction h generalizing before with
    | nil => rw [List.flatten_nil, List.nil_append, unquoteFrom, if_pos rfl, List.append_nil]
    | @cons c piece s pieces spelled _ ih =>
      rw [List.flatten_cons, List.append_assoc, unquoteFrom_spelled spelled, ih,
        List.reverse_cons, List.append_assoc, List.singleton_append]
  exact from_ []

/-! ## Numbers -/

/-- A run of decimal digits, at least one. -/
structure Digits where
  chars : List Char
  some : chars ≠ []
  digit : ∀ d ∈ chars, d.isDigit = true

/-- A written exponent. -/
structure Exponent where
  /-- Whether its mark is a capital letter. -/
  capital : Bool
  /-- Whether its sign is a minus, where it has one. -/
  sign : Option Bool
  digits : Digits

/-- A number as it may be written. Its whole part has no leading zero. -/
structure Numeral where
  /-- Whether there is a minus in front of it. -/
  negative : Bool
  whole : Nat
  /-- The digits behind the point, where there is one. -/
  fraction : Option Digits
  exponent : Option Exponent

/-- The sign in front of the digits of an exponent. -/
def signText : Option Bool → List Char
  | none => []
  | some false => ['+']
  | some true => ['-']

/-- An exponent, where there is one, behind the digits of a number. -/
def exponentText : Option Exponent → List Char
  | none => []
  | some e => (if e.capital then 'E' else 'e') :: (signText e.sign ++ e.digits.chars)

/-- A fraction, where there is one, behind the whole part of a number. -/
def fractionText : Option Digits → List Char
  | none => []
  | some ds => '.' :: ds.chars

/-- What digits come to with the exponent behind them, where there is one. The digits are a
significand and a power of ten, and may be those of a whole number. -/
def Number.ofDigits (negative : Bool) (significand : Nat) (power : Int) (whole : Bool) :
    Option Exponent → Except Defect Number
  | none =>
    if whole then ofSignificand negative significand else ofParts negative significand power
  | some e =>
    shifted negative significand power (e.sign = some true) (digitsValue 0 e.digits.chars)

namespace Numeral

/-- A numeral as it stands in a text. -/
def text (n : Numeral) : List Char :=
  (if n.negative then ['-'] else []) ++
    (Decimal.digits n.whole ++ (fractionText n.fraction ++ exponentText n.exponent))

/-- The number that a numeral denotes, unless that is too large for a double. -/
def number (n : Numeral) : Except Defect Number :=
  let whole := absorb 0 (Decimal.digits n.whole)
  match n.fraction with
  | none => Number.ofDigits n.negative whole.significand whole.left (whole.left = 0) n.exponent
  | some ds =>
    let fraction := absorb whole.significand ds.chars
    Number.ofDigits n.negative fraction.significand (whole.left - fraction.taken) false n.exponent

/-- The integer that a numeral without fraction and exponent is. Minus zero is none. -/
def integer? (n : Numeral) : Option Int :=
  match n.fraction, n.exponent with
  | none, none =>
    if !n.negative then some n.whole
    else if n.whole = 0 then none
    else some (-n.whole)
  | _, _ => none

end Numeral

/-- A text in which digits that stand in front of it do not go on. -/
def EndsDigits (cs : List Char) : Prop := ∀ c ∈ cs.head?, c.isDigit = false

/-- A text in which a number that stands in front of it does not go on. -/
def EndsNumber : List Char → Prop
  | [] => True
  | c :: _ => c.isDigit = false ∧ c ≠ '.' ∧ c ≠ 'e' ∧ c ≠ 'E'

/-- What ends a number ends its digits. -/
theorem EndsNumber.endsDigits {cs : List Char} (h : EndsNumber cs) : EndsDigits cs := by
  cases cs with
  | nil => simp [EndsDigits]
  | cons c cs => simpa [EndsDigits] using h.1

/-- Digits are taken up to the first character that is none. -/
theorem takeWhile_digits {ds rest : List Char} (hd : ∀ d ∈ ds, d.isDigit = true)
    (hr : EndsDigits rest) :
    (ds ++ rest).takeWhile Char.isDigit = ds ∧ (ds ++ rest).dropWhile Char.isDigit = rest := by
  rw [List.takeWhile_append_of_pos hd, List.dropWhile_append_of_pos hd]
  cases rest with
  | nil => simp
  | cons c rest => simp [hr c rfl]

/-- A row of digits has a first one. -/
theorem Digits.exists_cons (ds : Digits) : ∃ c cs, ds.chars = c :: cs ∧ c.isDigit = true := by
  obtain ⟨c, cs, h⟩ := List.exists_cons_of_ne_nil ds.some
  exact ⟨c, cs, h, ds.digit c (by simp [h])⟩

/-- A number has a first digit. -/
theorem exists_digit_cons (n : Nat) :
    ∃ d ds, Decimal.digits n = d :: ds ∧ d.isDigit = true := by
  cases hd : Decimal.digits n with
  | nil => exact absurd hd Nat.toDigits_ne_nil
  | cons d ds =>
    have here : d ∈ Decimal.digits n := by
      rw [hd]
      exact List.mem_cons_self
    exact ⟨d, ds, rfl, Decimal.isDigit_of_mem_digits here⟩

/-- A number above zero does not start with a zero. -/
theorem head_digits {n : Nat} (h : 0 < n) : ∃ d ds, Decimal.digits n = d :: ds ∧ d ≠ '0' := by
  induction n using Nat.strongRecOn with
  | ind n ih =>
    rw [Decimal.digits, Nat.toDigits_eq_if (by decide)]
    by_cases small : n < 10
    · have first : ∀ m < 10, 0 < m → Nat.digitChar m ≠ '0' := by decide
      exact ⟨Nat.digitChar n, [], if_pos small, first n small h⟩
    · obtain ⟨d, ds, hd, hne⟩ := ih (n / 10) (by omega) (by omega)
      refine ⟨d, ds ++ [Nat.digitChar (n % 10)], ?_, hne⟩
      rw [if_neg small, ← List.cons_append, ← hd]
      rfl

/-- A numeral starts with a minus sign or a digit. -/
theorem Numeral.text_eq_cons (n : Numeral) :
    ∃ c cs, n.text = c :: cs ∧ (c = '-' ∨ c.isDigit = true) := by
  obtain ⟨d, ds, hd, digit⟩ := exists_digit_cons n.whole
  cases hn : n.negative with
  | true => exact ⟨'-', _, by rw [text, hn]; rfl, .inl rfl⟩
  | false => exact ⟨d, _, by rw [text, hn, hd]; rfl, .inr digit⟩

namespace Number

variable {rest : List Char}

/-! ### Reading a numeral -/

/-- The sign of an exponent is read however it is written. -/
theorem exponentSign_text (sign : Option Bool) {c : Char} (digit : c.isDigit = true)
    (cs : List Char) :
    exponentSign (signText sign ++ c :: cs) = (decide (sign = some true), c :: cs) := by
  cases sign with
  | none =>
    unfold exponentSign
    split
    · next h => cases h; exact absurd digit (by decide)
    · next h => cases h; exact absurd digit (by decide)
    · rfl
  | some minus => cases minus <;> rfl

/-- Behind its mark an exponent is read however it is written. -/
theorem afterMark_text (negative : Bool) (significand : Nat) (power : Int) (e : Exponent)
    (hr : EndsDigits rest) :
    afterMark negative significand power (signText e.sign ++ e.digits.chars ++ rest) =
      (ofDigits negative significand power false (some e)).map (·, rest) := by
  obtain ⟨c, cs, split, digit⟩ := e.digits.exists_cons
  obtain ⟨taken, left⟩ := takeWhile_digits e.digits.digit hr
  have sign : exponentSign (signText e.sign ++ e.digits.chars ++ rest) =
      (decide (e.sign = some true), e.digits.chars ++ rest) := by
    rw [List.append_assoc, split, List.cons_append, exponentSign_text _ digit]
  simp only [afterMark, sign, taken, left]
  rw [if_neg (by simp [split])]
  rfl

/-- Behind the digits an exponent is read where there is one. -/
theorem afterDigits_text (negative : Bool) (significand : Nat) (power : Int) (whole : Bool)
    (exponent : Option Exponent) (hr : EndsNumber rest) :
    afterDigits negative significand power whole (exponentText exponent ++ rest) =
      (ofDigits negative significand power whole exponent).map (·, rest) := by
  cases exponent with
  | none =>
    rw [exponentText, List.nil_append]
    unfold afterDigits
    split
    · exact absurd rfl hr.2.2.1
    · exact absurd rfl hr.2.2.2
    · rfl
  | some e =>
    rw [exponentText, List.cons_append]
    have marked := afterMark_text negative significand power e hr.endsDigits
    cases e.capital <;> exact marked

/-- An exponent ends the digits in front of it. -/
theorem endsDigits_exponent (exponent : Option Exponent) (hr : EndsNumber rest) :
    EndsDigits (exponentText exponent ++ rest) := by
  cases exponent with
  | none => exact hr.endsDigits
  | some e => cases h : e.capital <;> simp [EndsDigits, exponentText, h]

/-- Behind the whole part a fraction and an exponent are read where there are any. -/
theorem afterWhole_text (negative : Bool) (significand left : Nat) (fraction : Option Digits)
    (exponent : Option Exponent) (hr : EndsNumber rest) :
    afterWhole negative significand left
        (fractionText fraction ++ (exponentText exponent ++ rest)) =
      (match fraction with
      | none => ofDigits negative significand left (left = 0) exponent
      | some ds =>
        let absorbed := absorb significand ds.chars
        ofDigits negative absorbed.significand (left - absorbed.taken) false exponent).map
        (·, rest) := by
  cases fraction with
  | none =>
    -- what follows is no point, or it would not end the number
    have point (cs : List Char) : exponentText exponent ++ rest ≠ '.' :: cs := by
      intro h
      cases exponent with
      | none =>
        rw [exponentText, List.nil_append] at h
        rw [h] at hr
        exact hr.2.1 rfl
      | some e => cases hc : e.capital <;> simp [exponentText, hc] at h
    rw [fractionText, List.nil_append]
    unfold afterWhole
    split
    · next cs h => exact absurd h (point cs)
    · exact afterDigits_text negative significand left _ exponent hr
  | some ds =>
    obtain ⟨taken, left'⟩ := takeWhile_digits ds.digit (endsDigits_exponent exponent hr)
    rw [fractionText, List.cons_append]
    simp only [afterWhole, taken, left']
    rw [if_neg (by simp [ds.some])]
    exact afterDigits_text negative _ _ false exponent hr

/-- The whole part is taken as it is written: a zero is a digit on its own, and no other number
starts with one. -/
theorem magnitude_digits (negative : Bool) (n : Nat) (hr : EndsDigits rest) :
    magnitude negative (Decimal.digits n ++ rest) =
      afterWhole negative (absorb 0 (Decimal.digits n)).significand
        (absorb 0 (Decimal.digits n)).left rest := by
  by_cases hn : n = 0
  · subst hn
    have none : rest.takeWhile Char.isDigit = [] := by
      cases rest with
      | nil => rfl
      | cons c rest => exact List.takeWhile_cons_of_neg (by simp [hr c rfl])
    show (if (rest.takeWhile Char.isDigit).isEmpty then _ else _) = _
    rw [none]
    rfl
  · obtain ⟨d, ds, hd, hne⟩ := head_digits (Nat.pos_of_ne_zero hn)
    have all : ∀ c ∈ Decimal.digits n, c.isDigit = true := fun _ => Decimal.isDigit_of_mem_digits
    obtain ⟨taken, left⟩ := takeWhile_digits all hr
    unfold magnitude
    split
    · next heq =>
      rw [hd] at heq
      cases heq
      exact absurd rfl hne
    · simp only [taken, left]
      rw [if_neg (by simp [hd])]

/-- A fraction ends the digits in front of it. -/
theorem endsDigits_fraction (fraction : Option Digits) {cs : List Char} (h : EndsDigits cs) :
    EndsDigits (fractionText fraction ++ cs) := by
  cases fraction with
  | none => exact h
  | some ds => simp [EndsDigits, fractionText]

/-- **A number is read however it is written.** -/
theorem read_numeral (n : Numeral) (hr : EndsNumber rest) :
    read (n.text ++ rest) = n.number.map (·, rest) := by
  have unsigned : magnitude n.negative (Decimal.digits n.whole ++
      (fractionText n.fraction ++ (exponentText n.exponent ++ rest))) =
        n.number.map (·, rest) := by
    rw [magnitude_digits n.negative n.whole
      (endsDigits_fraction n.fraction (endsDigits_exponent n.exponent hr)),
      afterWhole_text _ _ _ n.fraction n.exponent hr, Numeral.number]
  simp only [Numeral.text, List.append_assoc]
  cases hn : n.negative with
  | true =>
    rw [hn] at unsigned
    exact unsigned
  | false =>
    rw [hn] at unsigned
    obtain ⟨d, ds, hd, digit⟩ := exists_digit_cons n.whole
    show read (Decimal.digits n.whole ++ _) = _
    rw [← unsigned, hd, List.cons_append]
    unfold read
    split
    · next h => cases h; exact absurd digit (by decide)
    · rfl

end Number

/-! ### Integers -/

/-- Further digits never make a number smaller. -/
theorem le_ofDigitChars (ds : List Char) (n : Nat) : n ≤ Nat.ofDigitChars 10 ds n := by
  induction ds generalizing n with
  | nil => exact Nat.le_refl n
  | cons d ds ih =>
    rw [Nat.ofDigitChars_cons]
    have := ih (10 * n + (d.toNat - '0'.toNat))
    omega

/-- A significand takes up a digit as a number in base ten does. -/
theorem next_significand (n : Nat) (d : Char) :
    n * 10 + digitValue d = 10 * n + (d.toNat - '0'.toNat) := by
  rw [Nat.mul_comm]
  rfl

/-- Digits are absorbed whole when what they name fits 64 bits. -/
theorem absorb_eq {ds : List Char} {n : Nat} (h : Nat.ofDigitChars 10 ds n < 2 ^ 64) :
    absorb n ds = ⟨Nat.ofDigitChars 10 ds n, ds.length, 0⟩ := by
  induction ds generalizing n with
  | nil => rfl
  | cons d ds ih =>
    rw [Nat.ofDigitChars_cons] at h ⊢
    -- digits only enlarge the number: it fits at each of them since it fits at the last
    have fits := Nat.lt_of_le_of_lt (le_ofDigitChars ds _) h
    rw [absorb]
    simp only [next_significand, if_pos fits, ih h, List.length_cons]

/-- Some of the digits are left when what they name does not fit 64 bits. -/
theorem absorb_left_ne {ds : List Char} {n : Nat} (hn : n < 2 ^ 64)
    (h : 2 ^ 64 ≤ Nat.ofDigitChars 10 ds n) : (absorb n ds).left ≠ 0 := by
  induction ds generalizing n with
  | nil => exact absurd hn (Nat.not_lt.mpr h)
  | cons d ds ih =>
    rw [Nat.ofDigitChars_cons] at h
    rw [absorb]
    by_cases fits : n * 10 + digitValue d < 2 ^ 64
    · simp only [if_pos fits]
      rw [← next_significand] at h
      exact ih fits h
    · simp only [if_neg fits]
      exact Nat.succ_ne_zero _

namespace Number

variable {negative : Bool} {significand : Nat} {power : Int} {k : Int}

/-- A number in parts is never a whole one. -/
theorem ofParts_ne_integer : ofParts negative significand power ≠ .ok (integer k) := by
  unfold ofParts
  split <;> simp

/-- A number with a shifted point is never a whole one. -/
theorem shifted_ne_integer {down : Bool} {shift : Nat} :
    shifted negative significand power down shift ≠ .ok (integer k) := by
  unfold shifted
  split
  · exact ofParts_ne_integer
  · split
    · exact ofParts_ne_integer
    · simp

/-- A significand alone is a whole number unless it leaves 64 bits; a minus and nothing is not
one. -/
theorem ofSignificand_eq_integer_iff : ofSignificand negative significand = .ok (integer k) ↔
    (negative = false ∧ k = significand) ∨
      (negative = true ∧ 0 < significand ∧ significand ≤ 2 ^ 63 ∧ k = -significand) := by
  cases negative with
  | false => simp [ofSignificand, eq_comm]
  | true =>
    by_cases h : 0 < significand ∧ significand ≤ 2 ^ 63
    · simp [ofSignificand, h, eq_comm]
    · have double : ofSignificand true significand ≠ .ok (integer k) := by
        rw [ofSignificand, if_neg (by simp), if_neg h]
        exact ofParts_ne_integer
      constructor
      · exact fun same => absurd same double
      · rintro (⟨no, -⟩ | ⟨-, pos, le, -⟩)
        · cases no
        · exact absurd ⟨pos, le⟩ h

end Number

namespace Numeral

variable {negative : Bool} {whole : Nat} {k : Int}

/-- A numeral that is its whole part alone is an integer if that fits, and a double otherwise. -/
theorem number_whole_eq_integer_iff : number ⟨negative, whole, none, none⟩ = .ok (.integer k) ↔
    whole < 2 ^ 64 ∧ Number.ofSignificand negative whole = .ok (.integer k) := by
  have value := Decimal.ofDigitChars_digits whole
  by_cases fits : whole < 2 ^ 64
  · have absorbed : absorb 0 (Decimal.digits whole) =
        ⟨whole, (Decimal.digits whole).length, 0⟩ := by
      rw [absorb_eq (by rw [value]; exact fits), value]
    simp [number, absorbed, Number.ofDigits, fits]
  · have left : (absorb 0 (Decimal.digits whole)).left ≠ 0 :=
      absorb_left_ne (by decide) (by rw [value]; exact Nat.not_lt.mp fits)
    simp [number, left, Number.ofDigits, Number.ofParts_ne_integer, fits]

/-- **A numeral is an integer** exactly when it has neither fraction nor exponent, is not minus zero
and fits 64 bits, signed or unsigned. -/
theorem number_eq_integer_iff {n : Numeral} :
    n.number = .ok (.integer k) ↔ n.integer? = some k ∧ -2 ^ 63 ≤ k ∧ k < 2 ^ 64 := by
  obtain ⟨negative, whole, fraction, exponent⟩ := n
  cases exponent with
  | some e =>
    have double : number ⟨negative, whole, fraction, some e⟩ ≠ .ok (.integer k) := by
      cases fraction <;> exact Number.shifted_ne_integer
    cases fraction <;> simp [double, integer?]
  | none =>
    cases fraction with
    | some ds =>
      have double : number ⟨negative, whole, some ds, none⟩ ≠ .ok (.integer k) :=
        Number.ofParts_ne_integer
      simp [double, integer?]
    | none =>
      rw [number_whole_eq_integer_iff, Number.ofSignificand_eq_integer_iff]
      cases negative with
      | false =>
        simp only [integer?, Bool.not_false, if_true, Option.some.injEq, reduceCtorEq, true_and,
          false_and, or_false]
        omega
      | true =>
        by_cases zero : whole = 0
        · simp [integer?, zero]
        · simp only [integer?, Bool.not_true, Bool.false_eq_true, if_false, if_neg zero,
            Option.some.injEq, reduceCtorEq, true_and, false_and, false_or]
          omega

end Numeral

end TaskReplicas.Json
