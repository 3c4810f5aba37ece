/-!
# Columns

A text fills a column of a number of characters: blanks come behind it or before it. A text longer
than its column is never cut.
-/

set_option autoImplicit false

namespace TaskReplicas.Text

/-- A text at the left of its column. -/
def flushLeft (width : Nat) (s : String) : String := String.ofList (s.toList.rightpad width ' ')

/-- A text at the right of its column. -/
def flushRight (width : Nat) (s : String) : String := String.ofList (s.toList.leftpad width ' ')

/-- A text that is set flush left is as long as it is, and never shorter than the width. -/
theorem length_flushLeft (width : Nat) (s : String) :
    (flushLeft width s).length = max width s.length := by
  simp only [flushLeft, List.rightpad, String.length_ofList, List.length_append,
    List.length_replicate, String.length_toList]
  omega

/-- A text that is set flush right is as long as it is, and never shorter than the width. -/
theorem length_flushRight (width : Nat) (s : String) :
    (flushRight width s).length = max width s.length := by
  simp only [flushRight, List.leftpad, String.length_ofList, List.length_append,
    List.length_replicate, String.length_toList]
  omega

end TaskReplicas.Text
