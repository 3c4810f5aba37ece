import TaskReplicas.Json.Defect

/-!
# Quoted strings

A string is written between quotes. Quotes, backslashes and characters below a blank are escaped,
the common ones by a letter and the others by four lower-case hexadecimal digits; everything else
stands as it is. Reading also takes a slash and any 16-bit unit behind a backslash, two units of a
surrogate pair making one character; a surrogate alone is malformed.
-/

set_option autoImplicit false

namespace TaskReplicas.Json

/-- A character as it is written between quotes. -/
def escape (c : Char) : List Char :=
  if c = '"' then ['\\', '"']
  else if c = '\\' then ['\\', '\\']
  else if c = '\x08' then ['\\', 'b']
  else if c = '\x0c' then ['\\', 'f']
  else if c = '\n' then ['\\', 'n']
  else if c = '\r' then ['\\', 'r']
  else if c = '\t' then ['\\', 't']
  else if c.toNat < 0x20 then
    ['\\', 'u', '0', '0', Nat.digitChar (c.toNat / 16), Nat.digitChar (c.toNat % 16)]
  else [c]

/-- A string as it is written. -/
def quote (s : List Char) : List Char := '"' :: s.flatMap escape ++ ['"']

/-- The value of a hexadecimal digit of either case. -/
def hexValue? (c : Char) : Option Nat :=
  if c.isDigit then some (c.toNat - '0'.toNat)
  else if 'a' ≤ c ∧ c ≤ 'f' then some (c.toNat - 'a'.toNat + 10)
  else if 'A' ≤ c ∧ c ≤ 'F' then some (c.toNat - 'A'.toNat + 10)
  else none

/-- Reads a 16-bit unit from four hexadecimal digits. The text is truncated when it has not four
more bytes, whatever they are. -/
def hexUnit : List Char → Except Defect (Nat × List Char)
  | a :: b :: c :: d :: rest =>
    match hexValue? a, hexValue? b, hexValue? c, hexValue? d with
    | some a, some b, some c, some d => .ok (((a * 16 + b) * 16 + c) * 16 + d, rest)
    | _, _, _, _ => .error .malformed
  | short => .error (if (short.map Char.utf8Size).sum < 4 then .truncated else .malformed)

/-- Reads the second unit of a surrogate pair, escaped like the first. -/
def trailingUnit (first : Nat) : List Char → Except Defect (Char × List Char)
  | '\\' :: 'u' :: rest => do
    let (second, rest) ← hexUnit rest
    if 0xdc00 ≤ second ∧ second < 0xe000 then
      .ok (Char.ofNat (0x10000 + (first - 0xd800) * 0x400 + (second - 0xdc00)), rest)
    else .error .malformed
  | '\\' :: rest => .error (.at rest)
  | cs => .error (.at cs)

/-- Reads the character that a unit, or a pair of units, stands for. -/
def escapedUnit (cs : List Char) : Except Defect (Char × List Char) := do
  let (unit, rest) ← hexUnit cs
  if unit < 0xd800 ∨ 0xe000 ≤ unit then .ok (Char.ofNat unit, rest)
  else if unit < 0xdc00 then trailingUnit unit rest
  else .error .malformed

/-- The character that one character behind a backslash stands for, if it is one of those. -/
def escapedLetter? (c : Char) : Option Char :=
  if c = '"' ∨ c = '\\' ∨ c = '/' then some c
  else if c = 'b' then some '\x08'
  else if c = 'f' then some '\x0c'
  else if c = 'n' then some '\n'
  else if c = 'r' then some '\r'
  else if c = 't' then some '\t'
  else none

/-- Reads the character that stands behind a backslash. -/
def escaped : List Char → Except Defect (Char × List Char)
  | [] => .error .truncated
  | c :: rest =>
    match escapedLetter? c with
    | some e => .ok (e, rest)
    | none => if c = 'u' then escapedUnit rest else .error .malformed

/-- Behind a unit there is less left. -/
theorem length_of_hexUnit {cs : List Char} {x : Nat × List Char} (h : hexUnit cs = .ok x) :
    x.2.length < cs.length := by
  unfold hexUnit at h
  split at h
  · split at h
    · cases h
      simp only [List.length_cons]
      omega
    · cases h
  · cases h

/-- Behind a second unit there is less left. -/
theorem length_of_trailingUnit {first : Nat} {cs : List Char} {x : Char × List Char}
    (h : trailingUnit first cs = .ok x) : x.2.length < cs.length := by
  unfold trailingUnit at h
  split at h
  · rename_i tail
    cases hu : hexUnit tail with
    | error d => rw [hu] at h; cases h
    | ok p =>
      have := length_of_hexUnit hu
      rw [hu] at h
      simp only [bind, Except.bind] at h
      split at h
      · simp only [Except.ok.injEq] at h
        subst h
        simp only [List.length_cons]
        omega
      · cases h
  · cases h
  · cases h

/-- Behind an escaped unit there is less left. -/
theorem length_of_escapedUnit {cs : List Char} {x : Char × List Char}
    (h : escapedUnit cs = .ok x) : x.2.length < cs.length := by
  unfold escapedUnit at h
  cases hu : hexUnit cs with
  | error d => rw [hu] at h; cases h
  | ok p =>
    have hp := length_of_hexUnit hu
    rw [hu] at h
    simp only [bind, Except.bind] at h
    split at h
    · simp only [Except.ok.injEq] at h
      subst h
      exact hp
    · split at h
      · have := length_of_trailingUnit h
        omega
      · cases h

/-- An escape takes at least one character of the text. -/
theorem length_of_escaped {cs : List Char} {x : Char × List Char} (h : escaped cs = .ok x) :
    x.2.length < cs.length := by
  cases cs with
  | nil => cases h
  | cons d cs =>
    simp only [escaped] at h
    split at h
    · cases h
      simp
    · split at h
      · have := length_of_escapedUnit h
        simp only [List.length_cons]
        omega
      · cases h

/-- Reads a string behind its opening quote: the characters it holds, after those read before, and
what follows the closing quote. -/
def unquoteFrom (before : List Char) : List Char → Except Defect (List Char × List Char)
  | [] => .error .truncated
  | c :: rest =>
    if c = '"' then .ok (before.reverse, rest)
    else if c = '\\' then
      match _h : escaped rest with
      | .ok (e, rest') => unquoteFrom (e :: before) rest'
      | .error d => .error d
    else if c.toNat < 0x20 then .error .malformed
    else unquoteFrom (c :: before) rest
termination_by cs => cs.length
decreasing_by
  · have := length_of_escaped _h
    simp only [List.length_cons] at this ⊢
    omega
  · simp

/-- Reads a string behind its opening quote. -/
def unquote (cs : List Char) : Except Defect (List Char × List Char) := unquoteFrom [] cs

/-- A string takes at least its closing quote of the text. -/
theorem length_of_unquoteFrom {before cs : List Char} {x : List Char × List Char}
    (h : unquoteFrom before cs = .ok x) : x.2.length < cs.length := by
  fun_induction unquoteFrom before cs with
  | case1 => cases h
  | case2 => cases h; simp
  | case3 before rest e tail hc _ ih =>
    have := length_of_escaped hc
    have := ih h
    simp only [List.length_cons] at *
    omega
  | case4 => cases h
  | case5 => cases h
  | case6 before c rest _ _ _ ih =>
    have := ih h
    simp only [List.length_cons]
    omega

end TaskReplicas.Json
