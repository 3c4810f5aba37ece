import TaskReplicas.Json.Number
import TaskReplicas.Json.Quoted

/-!
# Tokens

A JSON text is a row of tokens with blanks between them. `scan` reads the tokens of a text; what is
no token ends the row with a `broken` one that keeps the defect, since what stands before it may
already decide what the text is. `written` writes a row of tokens without blanks.
-/

set_option autoImplicit false

namespace TaskReplicas.Json

/-- A token of a JSON text. -/
inductive Token
  | openList
  | closeList
  | openObject
  | closeObject
  | comma
  | colon
  | null
  | bool (b : Bool)
  | number (n : Number)
  | string (s : String)
  /-- What is no token, and whether it starts like a string. Nothing follows it. -/
  | broken (quoted : Bool) (defect : Defect)
deriving DecidableEq

/-- The blanks that may stand between tokens. -/
def isBlank (c : Char) : Bool := c = ' ' || c = '\t' || c = '\n' || c = '\r'

/-- Reads the rest of a word. -/
def wordRest : List Char → List Char → Except Defect (List Char)
  | [], cs => .ok cs
  | _ :: _, [] => .error .truncated
  | w :: ws, c :: cs => if c = w then wordRest ws cs else .error .malformed

namespace Token

/-- The token that is a mark of its own. -/
def ofMark? (c : Char) : Option Token :=
  if c = '[' then some openList
  else if c = ']' then some closeList
  else if c = '{' then some openObject
  else if c = '}' then some closeObject
  else if c = ',' then some comma
  else if c = ':' then some colon
  else none

/-- A word and the token that it is, by the first character. -/
def ofWord? (c : Char) : Option (List Char × Token) :=
  if c = 'n' then some (['u', 'l', 'l'], null)
  else if c = 't' then some (['r', 'u', 'e'], bool true)
  else if c = 'f' then some (['a', 'l', 's', 'e'], bool false)
  else none

/-- Reads the token that a character and what follows it start with, and what follows the token. -/
def read (c : Char) (rest : List Char) : Except Defect (Token × List Char) :=
  match ofMark? c, ofWord? c with
  | some mark, _ => .ok (mark, rest)
  | none, some (word, token) => (wordRest word rest).map (token, ·)
  | none, none =>
    if c = '"' then (unquote rest).map fun (s, rest) => (string (String.ofList s), rest)
    else if c = '-' ∨ c.isDigit then
      (Number.read (c :: rest)).map fun (n, rest) => (number n, rest)
    else .error .malformed

/-- A token as it is written. -/
def text : Token → List Char
  | openList => ['[']
  | closeList => [']']
  | openObject => ['{']
  | closeObject => ['}']
  | comma => [',']
  | colon => [':']
  | null => ['n', 'u', 'l', 'l']
  | bool true => ['t', 'r', 'u', 'e']
  | bool false => ['f', 'a', 'l', 's', 'e']
  | number n => n.text
  | string s => quote s.toList
  | broken .. => []

end Token

/-- A row of tokens as a text without blanks. -/
def written (tokens : List Token) : List Char := tokens.flatMap Token.text

/-- Behind a word there is no more left. -/
theorem length_of_wordRest {ws cs rest : List Char} (h : wordRest ws cs = .ok rest) :
    rest.length ≤ cs.length := by
  fun_induction wordRest ws cs with
  | case1 => cases h; exact Nat.le_refl _
  | case2 => cases h
  | case3 ws c cs ih =>
    have := ih h
    simp only [List.length_cons]
    omega
  | case4 => cases h

/-- A token takes its first character and what else it takes of the text. -/
theorem length_of_read {c : Char} {rest : List Char} {x : Token × List Char}
    (h : Token.read c rest = .ok x) : x.2.length ≤ rest.length := by
  unfold Token.read at h
  split at h
  · cases h; exact Nat.le_refl _
  · rename_i word token _ _
    cases hw : wordRest word rest with
    | error d => rw [hw] at h; cases h
    | ok r => rw [hw] at h; cases h; exact length_of_wordRest hw
  · split at h
    · cases hu : unquote rest with
      | error d => rw [hu] at h; cases h
      | ok p =>
        rw [hu] at h
        cases h
        exact Nat.le_of_lt (length_of_unquoteFrom hu)
    · split at h
      · cases hn : Number.read (c :: rest) with
        | error d => rw [hn] at h; cases h
        | ok p =>
          rw [hn] at h
          cases h
          exact Nat.lt_succ_iff.1 (length_of_numberRead hn)
      · cases h

/-- Reads the tokens of a text, after those read before. -/
def scanFrom (before : List Token) : List Char → List Token
  | [] => before.reverse
  | c :: rest =>
    if isBlank c then scanFrom before rest
    else
      match _h : Token.read c rest with
      | .ok (token, rest') => scanFrom (token :: before) rest'
      | .error defect => (.broken (c = '"') defect :: before).reverse
termination_by cs => cs.length
decreasing_by
  · simp
  · have := length_of_read _h
    simp only [List.length_cons] at this ⊢
    omega

/-- The tokens of a text. -/
def scan (cs : List Char) : List Token := scanFrom [] cs

/-- Tokens that were read before stand in front of those that are read, and have no other part in
them. -/
theorem scanFrom_append (before earlier : List Token) (cs : List Char) :
    scanFrom (before ++ earlier) cs = earlier.reverse ++ scanFrom before cs := by
  fun_induction scanFrom before cs with
  | case1 before => simp [scanFrom]
  | case2 before c rest hb ih => rw [scanFrom, if_pos hb, ih]
  | case3 before c rest hb token tail hr ih =>
    rw [scanFrom, if_neg hb, hr]
    exact ih
  | case4 before c rest hb defect hr =>
    rw [scanFrom, if_neg hb, hr]
    simp

/-- The tokens that were read before stand in front of the others. -/
theorem scanFrom_eq_append (before : List Token) (cs : List Char) :
    scanFrom before cs = before.reverse ++ scan cs := scanFrom_append [] before cs

end TaskReplicas.Json
