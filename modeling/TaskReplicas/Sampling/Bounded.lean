import TaskReplicas.Sampling.Words

/-!
# Sampling

A number below a bound is drawn by scaling a word down to the bound. A word that would make some
numbers likelier than others is rejected and another one is tried; less than half of all words are.
Whoever draws relies on it that a draw ends, with a number of the range, though a stream could have
only words that are rejected. That it ends is an assumption here, and `tries` makes it: so many
words are never rejected one after the other. On a stream that breaks it the last word is taken as
it comes.
-/

set_option autoImplicit false

namespace TaskReplicas.Sampling

variable {σ : Type}

/-- The largest low part of a scaled word that is not rejected: the bound, moved up until it fills
the width, less one. -/
def acceptance (width bound : Nat) : Nat := bound * 2 ^ (width - 1 - bound.log2) - 1

/-- Scales words of a width down to a bound until one is not rejected, or no try is left. -/
def scaledFrom (draw : σ → Nat × σ) (width bound : Nat) : Nat → σ → Nat × σ
  | 0, s =>
    let (word, s) := draw s
    (word * bound / 2 ^ width, s)
  | tries + 1, s =>
    let (word, s) := draw s
    if word * bound % 2 ^ width ≤ acceptance width bound then (word * bound / 2 ^ width, s)
    else scaledFrom draw width bound tries s

/-- How many words may be rejected one after the other. Sampling has no such limit of its own: it is
what is assumed of a stream, and a draw that would go on beyond it is cut short. -/
def tries : Nat := 2 ^ 60

/-- Scaling a word down to a bound gives a number below it. -/
theorem scaled_lt {word width bound : Nat} (hb : 0 < bound) (hw : word < 2 ^ width) :
    word * bound / 2 ^ width < bound :=
  Nat.div_lt_of_lt_mul (Nat.mul_lt_mul_of_pos_right hw hb)

/-- However many words are rejected, what is drawn is below the bound. -/
theorem scaledFrom_lt {draw : σ → Nat × σ} {width bound : Nat} (hb : 0 < bound)
    (hw : ∀ s, (draw s).1 < 2 ^ width) (n : Nat) (s : σ) :
    (scaledFrom draw width bound n s).1 < bound := by
  induction n generalizing s with
  | zero => exact scaled_lt hb (hw s)
  | succ n ih =>
    simp only [scaledFrom]
    split
    · exact scaled_lt hb (hw s)
    · exact ih _

variable [WordSource σ]

/-- A number below a positive bound, from words of 64 bits. -/
def below64 (bound : Nat) (s : σ) : Nat × σ := scaledFrom word64 64 bound tries s

/-- A number below a positive bound, from words of 32 bits. -/
def below32 (bound : Nat) (s : σ) : Nat × σ := scaledFrom word32 32 bound tries s

/-- What is drawn from words of 64 bits is below its bound. -/
theorem below64_lt {bound : Nat} (hb : 0 < bound) (s : σ) : (below64 bound s).1 < bound :=
  scaledFrom_lt hb word64_lt tries s

/-- What is drawn from words of 32 bits is below its bound. -/
theorem below32_lt {bound : Nat} (hb : 0 < bound) (s : σ) : (below32 bound s).1 < bound :=
  scaledFrom_lt hb word32_lt tries s

/-- Whether something happens whose chance is `threshold / 2 ^ 64`. -/
def chance (threshold : Nat) (s : σ) : Bool × σ :=
  let (word, s) := word64 s
  (decide (word < threshold), s)

end TaskReplicas.Sampling
