import Mathlib.Data.Nat.Digits.Lemmas
import TaskReplicas.Proofs.CleanProgram

/-!
# Every configuration can be used

Settings are made in any order, and any number of times. Each field of the configuration depends on
the last setting of that field and on no other (`Config.ofSettings_eq_ofValues`), so there is always
at least one task and one worker.

A variable of the environment counts when its bytes spell a number below `2 ^ 64`
(`SpellsNumber`, `unsigned?_eq_some_iff`): decimal digits, as many zeros in front as one likes, and
one plus in front of these or none. The environment then makes the settings that its variables give
and no others, and these are at most one for each field, so their order does not matter.
-/

set_option autoImplicit false

namespace TaskReplicas

/-! ## Settings -/

/-- A field of a configuration. -/
inductive ConfigField
  | numTasks
  | pairsPerRound
  | rounds
  | concurrency
  | seed
deriving DecidableEq

namespace Setting

/-- The field that a setting is of. -/
def field : Setting → ConfigField
  | numTasks _ => .numTasks
  | pairsPerRound _ => .pairsPerRound
  | rounds _ => .rounds
  | concurrency _ => .concurrency
  | seed _ => .seed

/-- The number that a setting asks for. -/
def value : Setting → UInt64
  | numTasks n | pairsPerRound n | rounds n | concurrency n | seed n => n

end Setting

/-- The number that the last setting of a field asks for, if there is one. -/
def lastValue? (f : ConfigField) (settings : List Setting) : Option UInt64 :=
  ((settings.filter (·.field = f)).map Setting.value).getLast?

/-- The configuration for given numbers: the default where there is none, and at least one task and
one worker. -/
def Config.ofValues (value? : ConfigField → Option UInt64) : Config where
  numTasks := (value? .numTasks).elim 16 (max · 1)
  pairsPerRound := (value? .pairsPerRound).getD 1000
  rounds := (value? .rounds).getD 50
  concurrency := (value? .concurrency).elim 8 (max · 1)
  seed := value? .seed

/-- The last setting of a field is the one behind all others, if it is of that field. -/
theorem lastValue?_append (f : ConfigField) (settings : List Setting) (x : Setting) :
    lastValue? f (settings ++ [x]) =
      if x.field = f then some x.value else lastValue? f settings := by
  unfold lastValue?
  by_cases h : x.field = f <;> simp [h]

/-- Each field depends on its own last setting. -/
theorem Config.ofSettings_eq_ofValues (settings : List Setting) :
    ofSettings settings = ofValues (lastValue? · settings) := by
  induction settings using List.reverseRecOn with
  | nil => rfl
  | append_singleton settings x ih =>
    have last : ofSettings (settings ++ [x]) = (ofSettings settings).set x := by
      simp [ofSettings]
    rw [last, ih]
    cases x <;> simp [ofValues, Config.set, lastValue?_append, Setting.field, Setting.value]

/-- Settings of different fields may trade places. -/
theorem Config.set_comm (c : Config) {a b : Setting} (h : a.field ≠ b.field) :
    (c.set a).set b = (c.set b).set a := by
  cases a <;> cases b <;> first | rfl | exact absurd rfl h

/-- A number that is raised to one, or a default of at least one, is at least one. -/
theorem one_le_elim_max (asked : Option UInt64) {default : UInt64} (h : 1 ≤ default) :
    1 ≤ asked.elim default (max · 1) := by
  cases asked with
  | none => exact h
  | some n => exact UInt64.le_iff_toNat_le.mpr (one_le_toNat_max_one n)

/-- There is always a task and a worker. -/
theorem Config.one_le_ofSettings (settings : List Setting) :
    1 ≤ (ofSettings settings).numTasks ∧ 1 ≤ (ofSettings settings).concurrency := by
  rw [ofSettings_eq_ofValues]
  exact ⟨one_le_elim_max _ (by decide), one_le_elim_max _ (by decide)⟩

/-- When no two settings of one field differ, the value of a field is the one that is asked for
anywhere. -/
theorem lastValue?_eq_some_iff {settings : List Setting}
    (single : ∀ x ∈ settings, ∀ y ∈ settings, x.field = y.field → x = y) (f : ConfigField)
    (n : UInt64) :
    lastValue? f settings = some n ↔ ∃ x ∈ settings, x.field = f ∧ x.value = n := by
  have mem {m : UInt64} (h : lastValue? f settings = some m) :
      ∃ x ∈ settings, x.field = f ∧ x.value = m := by
    obtain ⟨x, hx, rfl⟩ := List.mem_map.mp (List.mem_of_getLast? h)
    obtain ⟨there, same⟩ := List.mem_filter.mp hx
    exact ⟨x, there, by simpa using same, rfl⟩
  constructor
  · exact mem
  · rintro ⟨x, hx, rfl, rfl⟩
    cases h : lastValue? x.field settings with
    | none =>
      unfold lastValue? at h
      rw [List.getLast?_eq_none_iff, List.map_eq_nil_iff, List.filter_eq_nil_iff] at h
      exact absurd (decide_eq_true rfl) (h x hx)
    | some m =>
      obtain ⟨y, hy, same, rfl⟩ := mem h
      rw [single x hx y hy same.symm]

/-- Settings that ask for one number a field make the same configuration in every order. -/
theorem Config.ofSettings_congr {settings settings' : List Setting}
    (single : ∀ x ∈ settings, ∀ y ∈ settings, x.field = y.field → x = y)
    (same : ∀ x, x ∈ settings ↔ x ∈ settings') : ofSettings settings = ofSettings settings' := by
  have single' : ∀ x ∈ settings', ∀ y ∈ settings', x.field = y.field → x = y := by
    intro x hx y hy
    exact single x ((same x).mpr hx) y ((same y).mpr hy)
  have values : (lastValue? · settings) = (lastValue? · settings') := by
    funext f
    ext n
    rw [lastValue?_eq_some_iff single, lastValue?_eq_some_iff single']
    simp only [same]
  rw [ofSettings_eq_ofValues, ofSettings_eq_ofValues, values]

/-! ## Numbers in the environment -/

/-- The number that decimal digits denote, the first of them the highest. -/
def decimalValue (digits : List UInt8) : Nat :=
  Nat.ofDigits 10 (digits.reverse.map fun b => b.toNat - 48)

/-- Whether bytes spell a number: at least one decimal digit, behind one plus or none. -/
def SpellsNumber (bytes : List UInt8) (n : Nat) : Prop :=
  ∃ digits, (bytes = digits ∨ bytes = 43 :: digits) ∧ digits ≠ [] ∧
    (∀ b ∈ digits, 48 ≤ b ∧ b ≤ 57) ∧ decimalValue digits = n

/-- The first digit counts as many powers of ten as there are digits behind it. -/
theorem decimalValue_cons (b : UInt8) (bs : List UInt8) :
    decimalValue (b :: bs) = (b.toNat - 48) * 10 ^ bs.length + decimalValue bs := by
  simp [decimalValue, Nat.ofDigits_append]
  ring

/-- Reading stops where the number leaves its word, and it never comes back from there. -/
theorem unsignedFrom_eq_some_iff {before : Nat} (h : before < 2 ^ 64) (bs : List UInt8) (n : Nat) :
    unsignedFrom before bs = some n ↔
      (∀ b ∈ bs, 48 ≤ b ∧ b ≤ 57) ∧ before * 10 ^ bs.length + decimalValue bs = n ∧
        n < 2 ^ 64 := by
  induction bs generalizing before with
  | nil =>
    simp only [unsignedFrom, Option.some.injEq, List.length_nil, Nat.pow_zero, Nat.mul_one]
    simp [decimalValue]
    omega
  | cons b bs ih =>
    rw [unsignedFrom, decimalValue_cons, List.forall_mem_cons, List.length_cons]
    by_cases digit : 48 ≤ b ∧ b ≤ 57
    · rw [if_pos digit]
      simp only [digit, and_self, true_and]
      have more : before * 10 ^ (bs.length + 1) +
          ((b.toNat - 48) * 10 ^ bs.length + decimalValue bs) =
          (before * 10 + (b.toNat - 48)) * 10 ^ bs.length + decimalValue bs := by ring
      rw [more]
      by_cases small : before * 10 + (b.toNat - 48) < 2 ^ 64
      · rw [if_pos small]
        exact ih small
      · rw [if_neg small]
        have grown : before * 10 + (b.toNat - 48) ≤
            (before * 10 + (b.toNat - 48)) * 10 ^ bs.length :=
          Nat.le_mul_of_pos_right _ (Nat.pow_pos (by decide))
        simp only [reduceCtorEq, false_iff]
        omega
    · rw [if_neg digit]
      simp [digit]

/-- Which digits are taken as a number, and as which. -/
theorem unsignedFrom_zero_eq_some_iff (digits : List UInt8) (n : UInt64) :
    (unsignedFrom 0 digits).map UInt64.ofNat = some n ↔
      (∀ b ∈ digits, 48 ≤ b ∧ b ≤ 57) ∧ decimalValue digits = n.toNat := by
  rw [Option.map_eq_some_iff]
  constructor
  · rintro ⟨m, hm, rfl⟩
    obtain ⟨ds, value, small⟩ := (unsignedFrom_eq_some_iff (by decide) digits m).mp hm
    rw [UInt64.toNat_ofNat_of_lt' small]
    exact ⟨ds, by simpa using value⟩
  · rintro ⟨ds, value⟩
    refine ⟨n.toNat, ?_, UInt64.ofNat_toNat⟩
    rw [unsignedFrom_eq_some_iff (by decide)]
    exact ⟨ds, by simpa using value, n.toNat_lt⟩

/-- What is read as a number is what spells one that fits into a word. -/
theorem unsigned?_eq_some_iff (bytes : List UInt8) (n : UInt64) :
    unsigned? bytes = some n ↔ SpellsNumber bytes n.toNat := by
  have chosen (digits : List UInt8) :
      (if digits.isEmpty then none else (unsignedFrom 0 digits).map UInt64.ofNat) = some n ↔
        digits ≠ [] ∧ (∀ b ∈ digits, 48 ≤ b ∧ b ≤ 57) ∧ decimalValue digits = n.toNat := by
    rw [← unsignedFrom_zero_eq_some_iff]
    cases digits <;> simp
  unfold unsigned?
  rw [chosen]
  by_cases plus : bytes.head? = some 43
  · obtain ⟨behind, rfl⟩ := List.head?_eq_some_iff.mp plus
    simp only [plus, if_true, List.tail_cons]
    constructor
    · intro spelled
      exact ⟨behind, .inr rfl, spelled⟩
    · rintro ⟨digits, rfl | same, spelled⟩
      · -- a plus is no digit
        have := spelled.2.1 43 List.mem_cons_self
        exact absurd this (by decide)
      · cases same
        exact spelled
  · simp only [plus, if_false]
    constructor
    · intro spelled
      exact ⟨bytes, .inl rfl, spelled⟩
    · rintro ⟨digits, rfl | rfl, spelled⟩
      · exact spelled
      · exact absurd rfl plus

/-! ## The environment -/

namespace Environment

/-- Whether a variable spells the number of a setting. -/
def Gives (e : Environment) (x : Setting) : Prop :=
  match x with
  | .numTasks n => ∃ bytes, e.tasks = some bytes ∧ SpellsNumber bytes n.toNat
  | .pairsPerRound n => ∃ bytes, e.pairs = some bytes ∧ SpellsNumber bytes n.toNat
  | .rounds n => ∃ bytes, e.rounds = some bytes ∧ SpellsNumber bytes n.toNat
  | .seed n => ∃ bytes, e.seed = some bytes ∧ SpellsNumber bytes n.toNat
  | .concurrency _ => False

/-- A value makes a setting just in case it spells a number, and then one of that number. -/
theorem setting?_eq_some_iff (make : UInt64 → Setting) (value : Option (List UInt8))
    (x : Setting) :
    setting? make value = some x ↔
      ∃ bytes n, value = some bytes ∧ SpellsNumber bytes n.toNat ∧ make n = x := by
  unfold setting?
  simp only [Option.map_eq_some_iff, Option.bind_eq_some_iff, unsigned?_eq_some_iff]
  constructor
  · rintro ⟨n, ⟨bytes, set, spelled⟩, made⟩
    exact ⟨bytes, n, set, spelled, made⟩
  · rintro ⟨bytes, n, set, spelled, made⟩
    exact ⟨n, ⟨bytes, set, spelled⟩, made⟩

/-- The settings of an environment are those that its variables give. -/
theorem mem_settings (e : Environment) (x : Setting) : x ∈ e.settings ↔ e.Gives x := by
  simp only [settings, List.mem_filterMap, List.mem_cons, List.not_mem_nil, or_false, id,
    exists_eq_right, @eq_comm _ (some x), setting?_eq_some_iff]
  cases x <;> simp [Gives]

/-- No field is set by two variables. -/
theorem single_settings (e : Environment) :
    ∀ x ∈ e.settings, ∀ y ∈ e.settings, x.field = y.field → x = y := by
  intro x hx y hy same
  have once {value : Option (List UInt8)} {n m : UInt64}
      (hn : ∃ bytes, value = some bytes ∧ SpellsNumber bytes n.toNat)
      (hm : ∃ bytes, value = some bytes ∧ SpellsNumber bytes m.toNat) : n = m := by
    obtain ⟨bytes, rfl, hn⟩ := hn
    obtain ⟨bytes', ⟨⟩, hm⟩ := hm
    rw [← unsigned?_eq_some_iff] at hn hm
    exact Option.some_injective _ (hn.symm.trans hm)
  rw [mem_settings] at hx hy
  cases x <;> cases y <;> first | exact congrArg _ (once hx hy) | exact hx.elim | cases same

/-- Environments that give the same settings make the same configuration. -/
theorem config_congr {e e' : Environment} (same : ∀ x, e.Gives x ↔ e'.Gives x) :
    e.config = e'.config := by
  refine Config.ofSettings_congr e.single_settings fun x => ?_
  rw [mem_settings, mem_settings]
  exact same x

/-- A variable that spells no number is as good as one that is not set. -/
theorem config_of_no_number (e : Environment) {bytes : List UInt8}
    (h : ∀ n : UInt64, ¬ SpellsNumber bytes n.toNat) :
    ({ e with tasks := some bytes } : Environment).config =
      ({ e with tasks := none } : Environment).config ∧
    ({ e with pairs := some bytes } : Environment).config =
      ({ e with pairs := none } : Environment).config ∧
    ({ e with rounds := some bytes } : Environment).config =
      ({ e with rounds := none } : Environment).config ∧
    ({ e with seed := some bytes } : Environment).config =
      ({ e with seed := none } : Environment).config := by
  refine ⟨?_, ?_, ?_, ?_⟩ <;>
    exact config_congr fun x => by cases x <;> simp [Gives, h]

end Environment

/-- **Every configuration can be used.** Whatever settings are made, each field depends on the last
setting of that field alone, or is the default, so settings of different fields may trade places,
and there is always a task and a worker. An environment makes the configuration of the settings that
its variables spell, in any order, and of no others; a variable that spells no number changes no
field. -/
theorem configurations_usable :
    (∀ settings, Config.ofSettings settings = .ofValues (lastValue? · settings) ∧
      1 ≤ (Config.ofSettings settings).numTasks ∧ 1 ≤ (Config.ofSettings settings).concurrency) ∧
    (∀ before a b after, a.field ≠ b.field →
      Config.ofSettings (before ++ a :: b :: after) =
        Config.ofSettings (before ++ b :: a :: after)) ∧
    ∀ e : Environment,
      (∃ given : List Setting, ∀ x, x ∈ given ↔ e.Gives x) ∧
      (∀ given : List Setting, (∀ x, x ∈ given ↔ e.Gives x) → e.config = .ofSettings given) ∧
      ∀ bytes, (∀ n : UInt64, ¬ SpellsNumber bytes n.toNat) →
        ({ e with tasks := some bytes } : Environment).config =
          ({ e with tasks := none } : Environment).config ∧
        ({ e with pairs := some bytes } : Environment).config =
          ({ e with pairs := none } : Environment).config ∧
        ({ e with rounds := some bytes } : Environment).config =
          ({ e with rounds := none } : Environment).config ∧
        ({ e with seed := some bytes } : Environment).config =
          ({ e with seed := none } : Environment).config := by
  refine ⟨fun settings => ?_, fun before a b after apart => ?_, fun e => ⟨?_, ?_, ?_⟩⟩
  · exact ⟨Config.ofSettings_eq_ofValues settings, Config.one_le_ofSettings settings⟩
  · simp [Config.ofSettings, Config.set_comm _ apart]
  · exact ⟨e.settings, e.mem_settings⟩
  · intro given h
    refine Config.ofSettings_congr e.single_settings fun x => ?_
    rw [e.mem_settings, h]
  · intro bytes h
    exact e.config_of_no_number h

/-- Two settings that trade places, and an environment with a number behind a plus and zeros, a lone
plus, a negative number and the largest seed. -/
theorem configurations_usable_mixed :
    let largest : List UInt8 :=
      [49, 56, 52, 52, 54, 55, 52, 52, 48, 55, 51, 55, 48, 57, 53, 53, 49, 54, 49, 53]
    let e : Environment :=
      ⟨some [43, 48, 48, 57], some [43], some [45, 49], some largest⟩
    let given : List Setting := [.seed 18446744073709551615, .numTasks 9]
    (Setting.rounds 3).field ≠ (Setting.concurrency 0).field ∧
    Config.ofSettings [.rounds 2, .rounds 3, .concurrency 0, .numTasks 0] =
      Config.ofSettings [.rounds 2, .concurrency 0, .rounds 3, .numTasks 0] ∧
    (∀ x, x ∈ given ↔ e.Gives x) ∧ e.config = .ofSettings given ∧
    (∀ n : UInt64, ¬ SpellsNumber [43] n.toNat) ∧
    ({ e with pairs := some [43] } : Environment).config =
      ({ e with pairs := none } : Environment).config := by
  intro largest e given
  obtain ⟨-, swap, environment⟩ := configurations_usable
  obtain ⟨-, only, ignored⟩ := environment e
  have apart : (Setting.rounds 3).field ≠ (Setting.concurrency 0).field := by decide
  have gives : ∀ x, x ∈ given ↔ e.Gives x := by
    intro x
    have read : e.settings = [.numTasks 9, .seed 18446744073709551615] := by decide
    rw [← e.mem_settings, read]
    simp [given, or_comm]
  have plus : ∀ n : UInt64, ¬ SpellsNumber [43] n.toNat := by
    intro n spelled
    cases (unsigned?_eq_some_iff [43] n).mpr spelled
  exact ⟨apart, swap [.rounds 2] _ _ [.numTasks 0] apart, gives, only given gives, plus,
    (ignored [43] plus).2.1⟩

end TaskReplicas
