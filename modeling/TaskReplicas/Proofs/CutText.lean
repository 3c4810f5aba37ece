import TaskReplicas.Proofs.JsonText

/-!
# What is read of a text that was cut

A text that was cut short is read up to the cut (`scan_of_cut`). What stands at the cut is nothing,
or the beginning of a token that is found to be truncated, or of a number a shorter number; `CutRow`
says so of rows of tokens. Escapes, words and numbers are cut in `unquoteFrom_cut`, `wordRest_cut`
and `integer_cut`.
-/

set_option autoImplicit false

namespace TaskReplicas.Json

/-! ## Cuts -/

/-- What is left of a list that was cut before its end. -/
def Cut {α : Type} (whole part : List α) : Prop := part <+: whole ∧ part ≠ whole

section Cut

variable {α : Type} {x : α} {xs ys part : List α}

/-- Nothing can be cut off where nothing is. -/
theorem not_cut_nil : ¬ Cut [] part := fun h => h.2 (List.prefix_nil.mp h.1)

/-- A cut leaves nothing, or the first entry and what a cut leaves of the others. -/
theorem cut_cons (h : Cut (x :: xs) part) : part = [] ∨ ∃ rest, part = x :: rest ∧ Cut xs rest := by
  rcases List.prefix_cons_iff.mp h.1 with rfl | ⟨rest, rfl, hrest⟩
  · exact .inl rfl
  · exact .inr ⟨rest, rfl, hrest, fun same => h.2 (congrArg (x :: ·) same)⟩

/-- A cut leaves nothing of a single entry. -/
theorem cut_singleton (h : Cut [x] part) : part = [] := by
  rcases cut_cons h with rfl | ⟨rest, rfl, hrest⟩
  · rfl
  · exact absurd hrest not_cut_nil

/-- A cut falls into the first of two lists, or leaves it whole. -/
theorem cut_append (h : Cut (xs ++ ys) part) :
    Cut xs part ∨ ∃ rest, part = xs ++ rest ∧ Cut ys rest := by
  induction xs generalizing part with
  | nil => exact .inr ⟨part, rfl, h⟩
  | cons x xs ih =>
    rcases cut_cons h with rfl | ⟨rest, rfl, hrest⟩
    · exact .inl ⟨List.nil_prefix, by simp⟩
    · rcases ih hrest with within | ⟨rest', rfl, behind⟩
      · refine .inl ⟨List.cons_prefix_cons.mpr ⟨rfl, within.1⟩, ?_⟩
        intro same
        exact within.2 (List.cons.inj same).2
      · exact .inr ⟨rest', rfl, behind⟩

end Cut

/-! ## Strings -/

/-- Fewer than four characters of one byte each are a unit that was cut. -/
theorem hexUnit_short {cs : List Char} (few : cs.length < 4)
    (ascii : ∀ c ∈ cs, c.utf8Size = 1) : hexUnit cs = .error .truncated := by
  have sizes : (cs.map Char.utf8Size).sum = cs.length := by
    rw [List.map_congr_left ascii, List.map_const', List.sum_replicate_nat, Nat.mul_one]
  unfold hexUnit
  split
  · simp only [List.length_cons] at few
    omega
  · rw [sizes, if_pos few]

/-- Hexadecimal digits take one byte each. -/
theorem utf8Size_digitChar : ∀ d < 16, (Nat.digitChar d).utf8Size = 1 := by decide

/-- Behind the backslash of an escape that was cut more is needed. -/
theorem escaped_cut {c : Char} {part : List Char} (h : Cut (escape c) ('\\' :: part)) :
    escaped part = .error .truncated := by
  rcases escape_cases c with ⟨e, he, -⟩ | ⟨control, he⟩ | ⟨-, backslash, -, he⟩
  · rw [he] at h
    rcases cut_cons h with nil | ⟨rest, same, hrest⟩
    · cases nil
    · cases same
      rw [cut_singleton hrest]
      rfl
  · rw [he] at h
    rcases cut_cons h with nil | ⟨rest, same, hrest⟩
    · cases nil
    cases same
    rcases cut_cons hrest with rfl | ⟨digits, rfl, hdigits⟩
    · rfl
    -- fewer than four digits of the unit are left
    have few := hdigits.1.length_le
    have fewer : digits.length ≠ 4 := fun full => hdigits.2 (hdigits.1.eq_of_length full)
    have ascii : ∀ d ∈ digits, d.utf8Size = 1 := by
      intro d hd
      have mem := hdigits.1.subset hd
      simp only [List.mem_cons, List.not_mem_nil, or_false] at mem
      rcases mem with rfl | rfl | rfl | rfl
      · rfl
      · rfl
      · exact utf8Size_digitChar _ (by omega)
      · exact utf8Size_digitChar _ (by omega)
    have unlettered : escapedLetter? 'u' = none := by decide
    rw [escaped, unlettered]
    show escapedUnit digits = _
    rw [escapedUnit, hexUnit_short (by simp at few; omega) ascii]
    rfl
  · rw [he] at h
    cases cut_singleton h

/-- A string that ends within an escape is truncated. -/
theorem unquoteFrom_escape_cut (before : List Char) {c : Char} {part : List Char}
    (h : Cut (escape c) part) : unquoteFrom before part = .error .truncated := by
  cases part with
  | nil => rw [unquoteFrom]
  | cons d part =>
    -- only an escape is longer than one character
    have first : d = '\\' := by
      rcases escape_cases c with ⟨e, he, -⟩ | ⟨-, he⟩ | ⟨-, -, -, he⟩
      all_goals rw [he] at h
      · exact (List.cons_prefix_cons.mp h.1).1
      · exact (List.cons_prefix_cons.mp h.1).1
      · cases cut_singleton h
    subst first
    have short := escaped_cut h
    rw [unquoteFrom, if_neg (by decide), if_pos rfl]
    split
    · next e tail he => cases short.symm.trans he
    · next d he => cases short.symm.trans he; rfl

/-- A quoted string that was cut behind its opening quote is truncated. -/
theorem unquoteFrom_cut (before s : List Char) {part : List Char}
    (h : Cut (s.flatMap escape ++ ['"']) part) :
    unquoteFrom before part = .error .truncated := by
  induction s generalizing before part with
  | nil =>
    rw [cut_singleton h, unquoteFrom]
  | cons c s ih =>
    rw [List.flatMap_cons, List.append_assoc] at h
    rcases cut_append h with within | ⟨rest, rfl, behind⟩
    · exact unquoteFrom_escape_cut before within
    · rw [unquoteFrom_escape]
      exact ih (c :: before) behind

/-! ## Words and numbers -/

/-- A word that ends too early is truncated. -/
theorem wordRest_cut {word part : List Char} (h : Cut word part) :
    wordRest word part = .error .truncated := by
  induction word generalizing part with
  | nil => exact absurd h not_cut_nil
  | cons w word ih =>
    rcases cut_cons h with rfl | ⟨rest, rfl, hrest⟩
    · rfl
    · rw [wordRest, if_pos rfl]
      exact ih hrest

/-- The first digits of a number are the digits of a number that is no larger. -/
theorem digits_cut {n : Nat} {part : List Char} (h : Cut (Decimal.digits n) part)
    (some : part ≠ []) : ∃ m, 0 < m ∧ m ≤ n ∧ part = Decimal.digits m := by
  induction n using Nat.strongRecOn generalizing part with
  | ind n ih =>
    rw [Decimal.digits, Nat.toDigits_eq_if (by decide)] at h
    by_cases small : n < 10
    · rw [if_pos small] at h
      exact absurd (cut_singleton h) some
    · rw [if_neg small] at h
      rcases cut_append h with within | ⟨rest, rfl, behind⟩
      · obtain ⟨m, pos, le, same⟩ := ih (n / 10) (by omega) within some
        exact ⟨m, pos, by omega, same⟩
      · rw [cut_singleton behind, List.append_nil]
        exact ⟨n / 10, by omega, by omega, rfl⟩

/-- Of an integer a minus sign is left, or an integer. -/
theorem integer_cut {n : Int} (low : -2 ^ 63 ≤ n) (high : n < 2 ^ 64) {part : List Char}
    (h : Cut (Decimal.integer n).toList part) (some : part ≠ []) :
    part = ['-'] ∨
      ∃ m : Int, -2 ^ 63 ≤ m ∧ m < 2 ^ 64 ∧ part = (Decimal.integer m).toList := by
  cases n with
  | ofNat n =>
    rw [Number.toList_integer_ofNat] at h
    obtain ⟨m, -, le, same⟩ := digits_cut h some
    refine .inr ⟨.ofNat m, ?_, ?_, ?_⟩
    · rw [Int.ofNat_eq_natCast]
      omega
    · rw [Int.ofNat_eq_natCast] at high ⊢
      omega
    · rw [Number.toList_integer_ofNat, same]
  | negSucc n =>
    rw [Number.toList_integer_negSucc] at h
    rcases cut_cons h with rfl | ⟨rest, rfl, hrest⟩
    · exact absurd rfl some
    by_cases nothing : rest = []
    · exact .inl (congrArg _ nothing)
    · obtain ⟨m, pos, le, same⟩ := digits_cut hrest nothing
      refine .inr ⟨.negSucc (m - 1), by omega, by omega, ?_⟩
      rw [Number.toList_integer_negSucc, Nat.sub_add_cancel pos, same]

/-! ## Rows of tokens -/

namespace Token

/-- Whether a token is a value of its own, which may take more than one character. -/
def isScalar : Token → Bool
  | null => true
  | bool _ => true
  | number _ => true
  | string _ => true
  | _ => false

/-- Whether a token starts like a string. -/
def isQuoted : Token → Bool
  | string _ => true
  | broken quoted _ => quoted
  | _ => false

end Token

/-- What is left of a row of tokens when its text is cut. -/
inductive CutRow : List Token → List Token → Prop
  /-- The text was cut before a token. -/
  | missing {t : Token} {ts : List Token} : CutRow (t :: ts) []
  /-- The text was cut inside a token, which is found to be truncated. -/
  | broken {t : Token} {ts : List Token} (h : t.isScalar = true) :
    CutRow (t :: ts) [.broken t.isQuoted .truncated]
  /-- The text was cut between the digits of a number. -/
  | shorter {n : Number} (m : Number) {ts : List Token} : CutRow (.number n :: ts) [.number m]
  /-- The text was cut behind a token. -/
  | behind (t : Token) {ts us : List Token} (rest : CutRow ts us) : CutRow (t :: ts) (t :: us)

/-- A token that cannot be read is the last one. -/
theorem scan_broken {c : Char} {cs : List Char} {defect : Defect} (hb : isBlank c = false)
    (h : Token.read c cs = .error defect) : scan (c :: cs) = [.broken (c = '"') defect] := by
  rw [scan, scanFrom, if_neg (by simp [hb])]
  split
  · next t rest hr => cases h.symm.trans hr
  · next d hr => cases h.symm.trans hr; rfl

/-- Nothing has no tokens. -/
theorem scan_nil : scan [] = [] := by
  rw [scan, scanFrom, List.reverse_nil]

/-- What is scanned of one token that was cut. -/
theorem scan_token_cut {t : Token} (legible : t.Legible) {part : List Char}
    (h : Cut t.text part) (ts : List Token) : CutRow (t :: ts) (scan part) := by
  cases part with
  | nil =>
    rw [scan_nil]
    exact .missing
  | cons c part =>
    -- a word that was cut is broken, whatever the word
    have word {w : Char} {ws : List Char} (ht : t.text = w :: ws) (hb : isBlank w = false)
        (scalar : t.isScalar = true) (hq : t.isQuoted = decide (w = '"'))
        (hread : ∀ cs, Token.read w cs = (wordRest ws cs).map (t, ·)) :
        CutRow (t :: ts) (scan (c :: part)) := by
      rw [ht] at h
      rcases cut_cons h with nil | ⟨rest, same, hrest⟩
      · cases nil
      cases same
      rw [scan_broken hb (by rw [hread, wordRest_cut hrest]; rfl), ← hq]
      exact .broken scalar
    cases t with
    | broken quoted defect => exact legible.elim
    | null => exact word (w := 'n') rfl rfl rfl rfl fun _ => rfl
    | bool b =>
      cases b with
      | true => exact word (w := 't') rfl rfl rfl rfl fun _ => rfl
      | false => exact word (w := 'f') rfl rfl rfl rfl fun _ => rfl
    | number n =>
      cases n with
      | double bits => exact legible.elim
      | integer n =>
        have cut : Cut (Decimal.integer n).toList (c :: part) := h
        rcases integer_cut legible.1 legible.2 cut (by simp) with same | ⟨m, low, high, same⟩
        · cases same
          rw [scan_broken rfl rfl]
          exact .broken rfl
        · have shorter : (Token.number (.integer m)).Legible := ⟨low, high⟩
          have ends (_ : Token.isNumber (.number (.integer m)) = true) : EndsNumber [] := trivial
          obtain ⟨d, ds, split, hb, hr⟩ := Token.read_text shorter ends
          have whole : c :: part = d :: ds := by
            rw [same, ← split, List.append_nil]
            rfl
          rw [whole, scan_token hb hr, scan_nil]
          exact .shorter _
    | string s =>
      have cut : Cut ('"' :: (s.toList.flatMap escape ++ ['"'])) (c :: part) := h
      rcases cut_cons cut with nil | ⟨rest, same, hrest⟩
      · cases nil
      cases same
      have truncated : Token.read '"' part = .error .truncated := by
        show (unquote part).map _ = _
        rw [unquote, unquoteFrom_cut [] s.toList hrest]
        rfl
      rw [scan_broken rfl truncated]
      exact .broken rfl
    | _ => cases cut_singleton h

/-- What ends a number still does when it is cut. -/
theorem endsNumber_of_prefix {cs part : List Char} (h : part <+: cs) (ends : EndsNumber cs) :
    EndsNumber part := by
  cases part with
  | nil => trivial
  | cons c part =>
    obtain ⟨rest, rfl⟩ := h
    exact ends

/-- **A text that was cut is read up to the cut.** -/
theorem scan_of_cut {ts : List Token} (legible : Legible ts) {part : List Char}
    (h : Cut (written ts) part) : CutRow ts (scan part) := by
  induction ts generalizing part with
  | nil => exact absurd h not_cut_nil
  | cons t ts ih =>
    have split : Cut (t.text ++ written ts) part := h
    rcases cut_append split with within | ⟨rest, rfl, behind⟩
    · exact scan_token_cut (legible.each t List.mem_cons_self) within ts
    · -- the token is whole, and what is left behind it still ends it
      have ends (hn : t.isNumber = true) : EndsNumber rest :=
        endsNumber_of_prefix behind.1 (legible.ends (spaced_written ts) hn)
      obtain ⟨c, tail, split, hb, hr⟩ :=
        Token.read_text (legible.each t List.mem_cons_self) ends
      rw [split, scan_token hb hr]
      exact .behind t (ih legible.tail behind)

end TaskReplicas.Json
