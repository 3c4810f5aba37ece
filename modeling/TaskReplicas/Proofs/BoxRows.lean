import Mathlib.Data.List.DropRight
import Mathlib.Data.List.Forall2
import TaskReplicas.Proofs.DecimalDigits
import TaskReplicas.Stress.Report

/-!
# Rows that fill their box

A row is a text or a number in a column of blanks, with the frame around it. A column never cuts
what stands in it, so the row of a text is as wide as the frame exactly when the text has at most 57
characters (`length_bannerRow_eq_iff`), and a row with a number exactly when the number has at most
30 digits (`length_countRow_eq_iff`). A number has a blank before it and the right edge behind it,
so it is known from its row alone (`countShown_append`). Each count of a run has a column for itself
and fits it; the three numbers that say what is run share one with the words between them, and can
be too long for it together.
-/

set_option autoImplicit false

namespace TaskReplicas

/-! ## Columns -/

/-- A row of blanks. -/
def blanks (n : Nat) : String := String.ofList (List.replicate n ' ')

/-- Blanks behind blanks are as many blanks as both. -/
theorem blanks_add (m n : Nat) : blanks (m + n) = blanks m ++ blanks n := by
  rw [blanks, List.replicate_add, String.ofList_append]
  rfl

/-- A text that is set flush left has the missing blanks behind it and is never cut. -/
theorem flushLeft_eq_append_blanks (width : Nat) (s : String) :
    Text.flushLeft width s = s ++ blanks (width - s.length) := by
  rw [Text.flushLeft, List.rightpad, String.ofList_append, String.ofList_toList,
    String.length_toList]
  rfl

/-- A text that is set flush right has the missing blanks in front of it and is never cut. -/
theorem flushRight_eq_blanks_append (width : Nat) (s : String) :
    Text.flushRight width s = blanks (width - s.length) ++ s := by
  rw [Text.flushRight, List.leftpad, String.ofList_append, String.ofList_toList,
    String.length_toList]
  rfl

/-- The box is 62 characters wide. -/
theorem length_boxTop : boxTop.length = 62 := by
  rw [boxTop, String.length_ofList]
  rfl

/-! ## Rows with a text -/

/-- A banner row is its text between the edges, with the missing blanks behind it. -/
theorem bannerRow_eq_append_blanks (text : String) :
    bannerRow text = "║  " ++ text ++ blanks (57 - text.length) ++ " ║" := by
  rw [bannerRow, flushLeft_eq_append_blanks, ← String.append_assoc]

/-- A banner row is as long as its text asks for, and never shorter than the box. -/
theorem length_bannerRow (text : String) : (bannerRow text).length = 5 + max 57 text.length := by
  rw [bannerRow, String.length_append, String.length_append, Text.length_flushLeft]
  show 3 + max 57 text.length + 2 = _
  omega

/-- A banner row fills the box just in case its text is at most 57 characters long. -/
theorem length_bannerRow_eq_iff (text : String) :
    (bannerRow text).length = boxTop.length ↔ text.length ≤ 57 := by
  rw [length_bannerRow, length_boxTop]
  omega

/-- Around the numbers that say what is run there are 34 characters. -/
theorem Config.length_summary (c : Config) :
    c.summary.length = 34 + (Nat.log 10 c.numTasks.toNat + 1 +
      (Nat.log 10 c.pairsPerRound.toNat + 1) + (Nat.log 10 c.rounds.toNat + 1)) := by
  simp only [summary, String.length_append, length_natural]
  show 7 + _ + 16 + _ + 11 + _ = _
  omega

/-! ## Rows with a number -/

/-- A row with a count is its label and its number between the edges, with the missing blanks
between them. -/
theorem countRow_eq_append_blanks (label : String) (n : Nat) :
    countRow label n = "║  " ++ label ++
      blanks (27 - label.length + (30 - (Decimal.natural n).length)) ++ Decimal.natural n ++
        " ║" := by
  rw [countRow, rowLabel, flushLeft_eq_append_blanks, flushRight_eq_blanks_append, blanks_add]
  simp only [String.append_assoc]

/-- How long a row is by its label and by the digits of its number. -/
theorem length_countRow (label : String) (n : Nat) :
    (countRow label n).length = 5 + max 27 label.length + max 30 (Nat.log 10 n + 1) := by
  rw [countRow, rowLabel, String.length_append, String.length_append, String.length_append,
    Text.length_flushLeft, Text.length_flushRight, length_natural]
  show 3 + max 27 label.length + _ + 2 = _
  omega

/-- A row with a short label fills the box just in case its number has at most 30 digits. -/
theorem length_countRow_eq_iff {label : String} (short : label.length ≤ 27) (n : Nat) :
    (countRow label n).length = boxTop.length ↔ n < 10 ^ 30 := by
  have digits : Nat.log 10 n < 30 ↔ n < 10 ^ 30 :=
    ⟨Nat.lt_pow_of_log_lt (by decide), Nat.log_lt_of_lt_pow' (by decide)⟩
  rw [length_countRow, length_boxTop, ← digits]
  omega

/-- The number that stands before the right edge of a row: the digits there, as far to the left as
they go. -/
def countShown (row : String) : Nat :=
  Nat.ofDigitChars 10 ((row.toList.rdrop 2).rtakeWhile Char.isDigit) 0

/-- The digits at the end of a row are those of its number, as there is a blank in front of them. -/
theorem rtakeWhile_isDigit_append_digits (front : List Char) (n : Nat) :
    (front ++ ' ' :: Decimal.digits n).rtakeWhile Char.isDigit = Decimal.digits n := by
  have backwards : ∀ d ∈ (Decimal.digits n).reverse, d.isDigit = true := by
    intro d hd
    exact Decimal.isDigit_of_mem_digits (List.mem_reverse.mp hd)
  rw [List.rtakeWhile, List.reverse_append, List.reverse_cons, List.append_assoc,
    List.takeWhile_append_of_pos backwards, List.singleton_append,
    List.takeWhile_cons_of_neg (by decide), List.append_nil, List.reverse_reverse]

/-- A number is known from any row that ends in a blank, the number and the edge. -/
theorem countShown_append (front : String) (n : Nat) :
    countShown (front ++ " " ++ Decimal.natural n ++ " ║") = n := by
  have inside : (front ++ " " ++ Decimal.natural n).toList =
      front.toList ++ ' ' :: Decimal.digits n := by
    have digits : (Decimal.natural n).toList = Decimal.digits n := String.toList_ofList
    rw [String.toList_append, String.toList_append, digits, List.append_assoc]
    rfl
  have edge : (front ++ " " ++ Decimal.natural n ++ " ║").toList.rdrop 2 =
      (front ++ " " ++ Decimal.natural n).toList := by
    rw [String.toList_append]
    exact List.rdrop_append_length
  rw [countShown, edge, inside, rtakeWhile_isDigit_append_digits, Decimal.ofDigitChars_digits]

/-- A row shows a number behind its label. -/
structure ShowsCount (entry : String × Nat) (row : String) : Prop where
  /-- It is as wide as the frame, unless the number has more than 30 digits. -/
  wide : row.length = boxTop.length ↔ entry.2 < 10 ^ 30
  /-- The label stands behind the left edge. -/
  labelled : ∃ rest, row = "║  " ++ entry.1 ++ rest
  /-- The digits of the number stand before the right edge, and a blank before them. -/
  numbered : ∃ front, row = front ++ " " ++ Decimal.natural entry.2 ++ " ║"
  /-- The number is known from the row. -/
  shown : countShown row = entry.2

/-- A row with a short label shows its number. -/
theorem showsCount_countRow {label : String} (short : label.length < 27) (n : Nat) :
    ShowsCount (label, n) (countRow label n) := by
  -- the label leaves a blank in its column, so the number has one before it however long it is
  obtain ⟨gap, room⟩ : ∃ gap,
      27 - label.length + (30 - (Decimal.natural n).length) = gap + 1 :=
    Nat.exists_eq_add_one.mpr (by omega)
  have layout := countRow_eq_append_blanks label n
  rw [room, blanks_add] at layout
  have numbered : countRow label n =
      "║  " ++ label ++ blanks gap ++ " " ++ Decimal.natural n ++ " ║" := by
    rw [layout, ← String.append_assoc]
    rfl
  refine ⟨length_countRow_eq_iff short.le n, ?_, ⟨_, numbered⟩, ?_⟩
  · refine ⟨blanks gap ++ " " ++ Decimal.natural n ++ " ║", ?_⟩
    simp only [numbered, String.append_assoc]
  · rw [numbered, countShown_append]

namespace Statistics

/-- What is counted in a run, each count with its label. -/
def entries (s : Statistics) : List (String × Nat) :=
  [("Number of Tasks:", s.numTasks), ("Transformed Pairs:", s.outcome.pairs),
    ("Passed Through:", s.outcome.passedThrough), ("Operations Kept:", s.outcome.kept),
    ("Operations Suppressed:", s.outcome.suppressed), ("Divergences:", s.outcome.divergences)]

/-- The rows of a run with a count are one for each entry. -/
theorem countRows_eq_map (s : Statistics) :
    s.countRows = s.entries.map fun entry => countRow entry.1 entry.2 := rfl

/-- All labels are short. -/
theorem length_label_lt (s : Statistics) : ∀ entry ∈ s.entries, entry.1.length < 27 := by
  simp only [entries, List.forall_mem_cons]
  decide

/-- The rows with a count are printed one after the other. -/
theorem countRows_infix_lines (s : Statistics) : s.countRows <:+: s.lines :=
  ⟨["", boxTop, "║              Stress Test Statistics                         ║", boxRule],
    [s.timeRow, s.speedRow, boxBottom], rfl⟩

/-- Each row of a run with a count shows the count of its entry. -/
theorem showsCount_countRows (s : Statistics) :
    List.Forall₂ ShowsCount s.entries s.countRows := by
  rw [countRows_eq_map, List.forall₂_map_right_iff, List.forall₂_same]
  intro entry counted
  exact showsCount_countRow (s.length_label_lt entry counted) entry.2

end Statistics

/-! ## Both boxes -/

/-- **Rows fill their box as long as they can.** The frame is 62 characters wide. A text is never
cut: its row starts with the edge, two blanks and all of it, and has 5 characters more than the text
or than its column, whichever is longer. So the row that says what is run is as wide as the frame
exactly when the three numbers in it have no more than 23 digits together. Each count is in a row of
its own that shows it, and the rows of counts that are words are all as wide as the frame. -/
theorem rows_fill_box (text : String) (c : Config) (s : Statistics) :
    boxTop.length = 62 ∧
    ((bannerRow text).length = 5 + max 57 text.length ∧
      bannerRow text = "║  " ++ text ++ blanks (57 - text.length) ++ " ║") ∧
    (bannerRow c.summary ∈ c.banner ∧
      ((bannerRow c.summary).length = boxTop.length ↔
        Nat.log 10 c.numTasks.toNat + 1 + (Nat.log 10 c.pairsPerRound.toNat + 1) +
          (Nat.log 10 c.rounds.toNat + 1) ≤ 23)) ∧
    s.countRows <:+: s.lines ∧ List.Forall₂ ShowsCount s.entries s.countRows ∧
      ((∀ entry ∈ s.entries, entry.2 < 2 ^ 64) →
        ∀ row ∈ s.countRows, row.length = boxTop.length) := by
  refine ⟨length_boxTop, ⟨length_bannerRow text, bannerRow_eq_append_blanks text⟩, ⟨?_, ?_⟩,
    s.countRows_infix_lines, s.showsCount_countRows, ?_⟩
  · simp only [Config.banner, List.mem_cons, true_or, or_true]
  · rw [length_bannerRow_eq_iff, c.length_summary]
    omega
  · intro words row printed
    rw [s.countRows_eq_map, List.mem_map] at printed
    obtain ⟨entry, counted, rfl⟩ := printed
    have word := words entry counted
    rw [length_countRow_eq_iff (s.length_label_lt entry counted).le]
    omega

/-- Up to the greatest counts that there are, and up to 23 digits of what is run: with one digit
more the row sticks out of the frame. -/
theorem rows_fill_box_to_limits :
    let c : Config := { numTasks := 99999999, pairsPerRound := 99999999, rounds := 9999999 }
    let more : Config := { c with rounds := 10000000 }
    let s : Statistics := .ofRun { numTasks := 18446744073709551615 }
      ⟨2 ^ 64 - 1, 2 ^ 64 - 1, 2 ^ 64 - 1, 2 ^ 64 - 1, 0⟩ .zero
    (∀ entry ∈ s.entries, entry.2 < 2 ^ 64) ∧ (∀ row ∈ s.countRows, row.length = boxTop.length) ∧
      (bannerRow c.summary).length = boxTop.length ∧
      (bannerRow more.summary).length ≠ boxTop.length := by
  intro c more s
  have words : ∀ entry ∈ s.entries, entry.2 < 2 ^ 64 := by
    simp only [Statistics.entries, List.forall_mem_cons]
    decide
  obtain ⟨-, -, ⟨-, fits⟩, -, -, counts⟩ := rows_fill_box "" c s
  obtain ⟨-, -, ⟨-, narrower⟩, -⟩ := rows_fill_box "" more s
  refine ⟨words, counts words, fits.mpr (by decide), ?_⟩
  intro wide
  exact absurd (narrower.mp wide) (by decide)

end TaskReplicas
