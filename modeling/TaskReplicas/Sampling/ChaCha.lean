import TaskReplicas.Sampling.Words

/-!
# The keyed stream

A key of eight words makes a stream of words, block after block. A block starts as four constants,
the key, a counter of 64 bits and two zeros; six double rounds mix it, and what it started as is
added at the end. A short seed is stretched to a key by a linear congruential generator whose
output is permuted.
-/

set_option autoImplicit false

namespace TaskReplicas.Sampling

/-- The words of a block. -/
abbrev Block := Vector UInt32 16

/-- The words of a key. -/
abbrev Key := Vector UInt32 8

/-- A word with its bits rotated towards the high end, by more than none of them. -/
def rotateLeft (x r : UInt32) : UInt32 := (x <<< r) ||| (x >>> (32 - r))

namespace Block

/-- Adds word `j` to word `i`, and rotates the bits in which the sum and word `k` differ into
word `k`. -/
def mix (b : Block) (i j k : Fin 16) (r : UInt32) : Block :=
  let sum := b[i] + b[j]
  let b := b.set i sum
  b.set k (rotateLeft (b[k] ^^^ sum) r)

/-- Mixes four words of a block. -/
def quarterRound (s : Block) (a b c d : Fin 16) : Block :=
  (((s.mix a b d 16).mix c d b 12).mix a b d 8).mix c d b 7

/-- Mixes the columns of a block and then its diagonals. -/
def doubleRound (s : Block) : Block :=
  let s := s.quarterRound 0 4 8 12
  let s := s.quarterRound 1 5 9 13
  let s := s.quarterRound 2 6 10 14
  let s := s.quarterRound 3 7 11 15
  let s := s.quarterRound 0 5 10 15
  let s := s.quarterRound 1 6 11 12
  let s := s.quarterRound 2 7 8 13
  s.quarterRound 3 4 9 14

/-- What a block of the stream starts as. -/
def initial (key : Key) (counter : UInt64) : Block :=
  (#v[0x61707865, 0x3320646e, 0x79622d32, 0x6b206574] : Vector UInt32 4) ++ key
    ++ (#v[counter.toUInt32, (counter >>> 32).toUInt32, 0, 0] : Vector UInt32 4)

/-- A block of the stream. -/
def ofCounter (key : Key) (counter : UInt64) : Block :=
  let start := initial key counter
  Vector.zipWith (· + ·) (Nat.repeat doubleRound 6 start) start

end Block

/-- The stream of a key, some way into it. -/
structure ChaCha where
  /-- The key. -/
  key : Key
  /-- The number of the next block. -/
  counter : UInt64
  /-- What is left of the block before it. -/
  pending : List UInt32

namespace ChaCha

/-- The whole stream of a key. -/
def ofKey (key : Key) : ChaCha := ⟨key, 0, []⟩

/-- The next word of the stream. -/
def next (s : ChaCha) : UInt32 × ChaCha :=
  match s.pending with
  | w :: rest => (w, { s with pending := rest })
  | [] =>
    let block := Block.ofCounter s.key s.counter
    (block[0], ⟨s.key, s.counter + 1, block.toList.tail⟩)

instance : WordSource ChaCha := ⟨next⟩

/-- The next state of the generator that stretches a seed. -/
def stretch (state : UInt64) : UInt64 := state * 6364136223846793005 + 11634580027462260723

/-- The word that the generator shows in a state. -/
def permuted (state : UInt64) : UInt32 :=
  let x := (((state >>> 18) ^^^ state) >>> 27).toUInt32
  let r := (state >>> 59).toUInt32
  (x >>> r) ||| (x <<< ((32 - r) % 32))

/-- The first words that a seed stretches to. -/
def stretched (state : UInt64) : Nat → List UInt32
  | 0 => []
  | n + 1 => permuted (stretch state) :: stretched (stretch state) n

/-- A seed is stretched to as many words as are asked for. -/
theorem length_stretched (state : UInt64) (n : Nat) : (stretched state n).length = n := by
  induction n generalizing state with
  | zero => rfl
  | succ n ih => simp [stretched, ih]

/-- The key that a seed stretches to. -/
def keyOfSeed (seed : UInt64) : Key := ⟨(stretched seed 8).toArray, length_stretched seed 8⟩

/-- The whole stream of a seed. -/
def ofSeed (seed : UInt64) : ChaCha := ofKey (keyOfSeed seed)

end ChaCha

end TaskReplicas.Sampling
