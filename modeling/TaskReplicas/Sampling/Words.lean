/-!
# Sources of random words

All randomness comes from a stream of 32-bit words. What is drawn from it is drawn in the same way
from every stream, so what holds of it holds whatever the stream is.
-/

set_option autoImplicit false

namespace TaskReplicas.Sampling

/-- A stream of 32-bit words. -/
class WordSource (σ : Type) where
  /-- The next word, and the stream behind it. -/
  next : σ → UInt32 × σ

variable {σ : Type} [WordSource σ]

/-- The next 32 bits as a number. -/
def word32 (s : σ) : Nat × σ :=
  let (w, s) := WordSource.next s
  (w.toNat, s)

/-- The next 64 bits as a number, the low half first. -/
def word64 (s : σ) : Nat × σ :=
  let (low, s) := word32 s
  let (high, s) := word32 s
  (high * 2 ^ 32 + low, s)

/-- A word has 32 bits. -/
theorem word32_lt (s : σ) : (word32 s).1 < 2 ^ 32 := UInt32.toNat_lt _

/-- Two words have 64 bits. -/
theorem word64_lt (s : σ) : (word64 s).1 < 2 ^ 64 := by
  have low := word32_lt s
  have high := word32_lt (word32 s).2
  simp only [word64]
  omega

end TaskReplicas.Sampling
