import Mathlib.Data.String.Basic
import Mathlib.Tactic.SplitIfs
import TaskReplicas.Decimal.Integer
import TaskReplicas.Replica.Basic

/-!
# Texts in the order of their bytes

Texts are compared character by character, and the order is that of their bytes in UTF-8. The bytes
of a character are its digits in base 64, with an offset on the first that grows with their number
(`utf8EncodeChar_eq`); so the smaller of two characters has the smaller bytes, whatever follows
(`utf8EncodeChar_append_lt`), and two texts are told apart where their first different characters
are (`compare_eq_lt_iff_utf8Bytes`).
-/

set_option autoImplicit false

namespace TaskReplicas

/-- The bytes of a text in UTF-8. -/
def utf8Bytes (s : String) : List UInt8 := s.toUTF8.data.toList

/-- How many bytes follow the first one of a character. -/
def followers (v : Nat) : Nat :=
  if v < 0x80 then 0 else if v < 0x800 then 1 else if v < 0x10000 then 2 else 3

/-- What the first byte of a character is above its first digit. -/
def leadOffset : Nat → Nat
  | 0 => 0
  | 1 => 0xC0
  | 2 => 0xE0
  | _ => 0xF0

/-- The last digits of a number in base 64 as bytes, the highest of them first. -/
def followBytes (v : Nat) : Nat → List UInt8
  | 0 => []
  | k + 1 => .ofNat (0x80 + v / 64 ^ k % 64) :: followBytes v k

/-! ## Characters -/

/-- The number of a character is below 1114112. -/
theorem char_toNat_lt (c : Char) : c.val.toNat < 0x110000 := by
  have valid := c.valid
  unfold UInt32.isValidChar Nat.isValidChar at valid
  omega

/-- The bytes of a character are a leading byte and its digits in base 64 behind that. -/
theorem utf8EncodeChar_eq (c : Char) :
    String.utf8EncodeChar c =
      .ofNat (leadOffset (followers c.val.toNat) + c.val.toNat / 64 ^ followers c.val.toNat) ::
        followBytes c.val.toNat (followers c.val.toNat) := by
  have small := char_toNat_lt c
  unfold String.utf8EncodeChar followers
  generalize c.val.toNat = v at small
  dsimp only
  by_cases one : v < 0x80
  · simp [one, Nat.le_of_lt_succ one, leadOffset, followBytes]
  by_cases two : v < 0x800
  · have digit : v / 64 % 32 = v / 64 := by omega
    have long : ¬v ≤ 127 := by omega
    simp [one, two, long, Nat.le_of_lt_succ two, leadOffset, followBytes, digit, Nat.add_comm]
  by_cases three : v < 0x10000
  · have digit : v / 4096 % 16 = v / 4096 := by omega
    have long : ¬v ≤ 127 ∧ ¬v ≤ 2047 := by omega
    simp [one, two, three, long, Nat.le_of_lt_succ three, leadOffset, followBytes, digit,
      Nat.add_comm]
  · have digit : v / 262144 % 8 = v / 262144 := by omega
    have long : ¬v ≤ 127 ∧ ¬v ≤ 2047 ∧ ¬v ≤ 65535 := by omega
    simp [one, two, three, long, leadOffset, followBytes, digit, Nat.add_comm]

/-- Of two numbers with the same first digits the smaller has the smaller last digits. -/
theorem followBytes_append_lt {m n : Nat} (h : m < n) (k : Nat) (same : m / 64 ^ k = n / 64 ^ k)
    (u v : List UInt8) : followBytes m k ++ u < followBytes n k ++ v := by
  induction k with
  | zero => simp at same; omega
  | succ k ih =>
    rw [followBytes, followBytes, List.cons_append, List.cons_append, List.cons_lt_cons_iff]
    rw [Nat.pow_succ, ← Nat.div_div_eq_div_mul, ← Nat.div_div_eq_div_mul] at same
    by_cases here : m / 64 ^ k = n / 64 ^ k
    · exact .inr ⟨by rw [here], ih here⟩
    · have smaller : m / 64 ^ k < n / 64 ^ k :=
        Nat.lt_of_le_of_ne (Nat.div_le_div_right (Nat.le_of_lt h)) here
      left
      rw [UInt8.ofNat_lt_iff_lt (show _ < 256 by omega) (show _ < 256 by omega)]
      omega

/-- The smaller of two numbers is not written with more bytes. -/
theorem followers_le_followers {m n : Nat} (h : m ≤ n) : followers m ≤ followers n := by
  unfold followers
  split_ifs <;> omega

/-- Of two characters the one with more following bytes has the larger leading byte. -/
theorem lead_lt_of_followers_lt {m n : Nat} (hn : n < 0x110000) (h : followers m < followers n) :
    leadOffset (followers m) + m / 64 ^ followers m <
      leadOffset (followers n) + n / 64 ^ followers n := by
  unfold followers at h ⊢
  split_ifs at h ⊢ <;> simp [leadOffset] at h ⊢ <;> omega

/-- A leading byte is a byte. -/
theorem lead_lt {n : Nat} (hn : n < 0x110000) :
    leadOffset (followers n) + n / 64 ^ followers n < 256 := by
  unfold followers
  split_ifs <;> simp [leadOffset] <;> omega

/-- The smaller of two characters has the smaller bytes, whatever follows. -/
theorem utf8EncodeChar_append_lt {c d : Char} (h : c < d) (u v : List UInt8) :
    String.utf8EncodeChar c ++ u < String.utf8EncodeChar d ++ v := by
  have order : c.val.toNat < d.val.toNat := h
  have hc := char_toNat_lt c
  have hd := char_toNat_lt d
  rw [utf8EncodeChar_eq, utf8EncodeChar_eq]
  generalize c.val.toNat = m at *
  generalize d.val.toNat = n at *
  rw [List.cons_append, List.cons_append, List.cons_lt_cons_iff,
    UInt8.ofNat_lt_iff_lt (lead_lt hc) (lead_lt hd)]
  rcases Nat.lt_or_eq_of_le (followers_le_followers (Nat.le_of_lt order)) with shorter | same
  · exact .inl (lead_lt_of_followers_lt hd shorter)
  · rw [same]
    rcases Nat.lt_or_eq_of_le (Nat.div_le_div_right (c := 64 ^ followers n) (Nat.le_of_lt order))
      with lower | equal
    · exact .inl (Nat.add_lt_add_left lower _)
    · exact .inr ⟨by rw [equal], followBytes_append_lt order _ equal u v⟩

/-! ## Texts -/

/-- The bytes of a text are those of its characters, one after the other. -/
theorem utf8Bytes_eq_flatMap (s : String) :
    utf8Bytes s = s.toList.flatMap String.utf8EncodeChar := by
  unfold utf8Bytes
  rw [String.toUTF8_eq_toByteArray, ← String.utf8Encode_toList, List.utf8Encode,
    List.toList_data_toByteArray]

/-- Rows of characters and their bytes have the same order. The bytes of the first character that
differs decide. -/
theorem flatMap_utf8EncodeChar_lt {l l' : List Char} (h : l < l') :
    l.flatMap String.utf8EncodeChar < l'.flatMap String.utf8EncodeChar := by
  induction h with
  | @nil d rest =>
    obtain ⟨byte, bytes, hd⟩ := List.exists_cons_of_ne_nil (String.utf8EncodeChar_ne_nil (c := d))
    rw [List.flatMap_nil, List.flatMap_cons, hd]
    exact .nil
  | rel smaller =>
    rw [List.flatMap_cons, List.flatMap_cons]
    exact utf8EncodeChar_append_lt smaller _ _
  | cons _ ih =>
    rw [List.flatMap_cons, List.flatMap_cons]
    exact List.append_left_lt ih

/-- The bytes of a smaller text are smaller. -/
theorem utf8Bytes_lt_of_lt {s t : String} (h : s < t) : utf8Bytes s < utf8Bytes t := by
  rw [utf8Bytes_eq_flatMap, utf8Bytes_eq_flatMap]
  exact flatMap_utf8EncodeChar_lt (String.lt_iff_toList_lt.mp h)

/-- The order of texts, which is that of the keys of every map, is that of their bytes. -/
theorem compare_eq_lt_iff_utf8Bytes {s t : String} :
    compare s t = .lt ↔ utf8Bytes s < utf8Bytes t := by
  rw [show compare s t = compareOfLessAndEq s t from rfl, compareOfLessAndEq_eq_lt]
  constructor
  · exact utf8Bytes_lt_of_lt
  · intro bytes
    rcases lt_trichotomy s t with smaller | rfl | greater
    · exact smaller
    · exact absurd bytes (List.lt_irrefl _)
    · exact absurd (utf8Bytes_lt_of_lt greater) (List.lt_asymm bytes)

end TaskReplicas
