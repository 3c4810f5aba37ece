import TaskReplicas.Text.Visible

/-!
# String literals

Diagnostics show a string as a literal between double quotes. Quotes and backslashes, the tab and
the ends of lines, and NUL are escaped by one character; what is not visible is written as its code
point in lower-case hexadecimal digits. A single quote is left as it is.
-/

set_option autoImplicit false

namespace TaskReplicas.Text

/-- A character of a literal. -/
def literalChar (c : Char) : List Char :=
  if c = '\x00' then ['\\', '0']
  else if c = '\t' then ['\\', 't']
  else if c = '\r' then ['\\', 'r']
  else if c = '\n' then ['\\', 'n']
  else if c = '\\' then ['\\', '\\']
  else if c = '"' then ['\\', '"']
  else if isVisible c then [c]
  else ['\\', 'u', '\x7b'] ++ Nat.toDigits 16 c.toNat ++ ['\x7d']

/-- A string as a literal. -/
def literal (s : String) : String :=
  "\"" ++ String.ofList (s.toList.flatMap literalChar) ++ "\""

end TaskReplicas.Text
