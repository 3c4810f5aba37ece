import TaskReplicas.Proofs.Rebase

/-!
# Three operations at once

Three replicas each make one operation, and the third one made is carried past both others:
`Replica.mergeThree` applies the first, what is left of the second behind it, and what is left of
the third behind both. All six orders lead to the same replica when the operations fit and no two
updates of one property agree in their value or in their time.

What has to hold for that is that giving way is transitive (`yieldsTo_trans`). It is not so in
general: a create gives way to an update and an update to a delete, but a delete gives way to a
create, and of two updates with one value both are dropped, the later one's time with them. The
former cannot happen among operations that fit one replica. The latter can, and then the order
shows, however the three times differ.
-/

set_option autoImplicit false

namespace TaskReplicas

/-- What is left of an operation behind another one. -/
def residual (x y : Option Operation) : Option Operation := (transform? x y).1

/-- If both operations are updates of one property of a task, they differ in value and in time. -/
def Operation.Separate (a b : Operation) : Prop :=
  ∀ t p v w i j, a = .update t p v i → b = .update t p w j → v ≠ w ∧ i ≠ j

/-- The replica that took `a`, what is left of `b` behind it and what is left of `c` behind both. -/
def Replica.mergeThree (s : Replica) (a b c : Operation) : Replica :=
  ((s.apply a).applyOption (residual b a)).applyOption
    (residual (residual c a) (residual b a))

/-- Being separate has no sides. -/
theorem Operation.Separate.symm {a b : Operation} (h : a.Separate b) : b.Separate a := by
  intro t p v w i j hb ha
  obtain ⟨hv, hi⟩ := h t p w v j i ha hb
  exact ⟨hv.symm, hi.symm⟩

/-- Operations that are separate do not tie. -/
theorem Operation.Separate.not_tied {a b : Operation} (h : a.Separate b) : ¬ a.Tied b := by
  rintro ⟨t, p, i, hv⟩
  exact (h t p _ _ i i rfl rfl).2 rfl

/-- Updates that differ in value and in time are separate. -/
theorem Operation.separate_update {t p : String} {v w : Option String} {i j : Timestamp}
    (hv : v ≠ w) (hi : i ≠ j) : (update t p v i).Separate (update t p w j) := by
  rintro _ _ _ _ _ _ ⟨⟩ ⟨⟩
  exact ⟨hv, hi⟩

/-! ## Residuals -/

/-- Nothing is left of nothing. -/
theorem residual_none_left (y : Option Operation) : residual none y = none := rfl

/-- Behind nothing an operation is left as it is. -/
theorem residual_none_right (x : Option Operation) : residual x none = x := by
  cases x <;> rfl

/-- Behind another one an operation is left as it is unless it gives way. -/
theorem residual_some (a b : Operation) :
    residual (some a) (some b) = if a.YieldsTo b then none else some a :=
  transform_fst a b

/-- What is left of an operation is that operation or nothing. -/
theorem eq_of_residual {a op : Operation} {y : Option Operation}
    (h : residual (some a) y = some op) : a = op := by
  rcases transform?_fst (some a) y with hn | hs
  · exact nomatch hn.symm.trans h
  · exact Option.some.inj (hs.symm.trans h)

/-- Untied operations close a square, each applied behind the other as what is left of it. -/
theorem Replica.residual_square {s : Replica} {x y : Option Operation} (hx : s.AcceptsOption x)
    (hy : s.AcceptsOption y) (ht : ∀ a b, x = some a → y = some b → ¬ a.Tied b) :
    (s.applyOption x).applyOption (residual y x) =
      (s.applyOption y).applyOption (residual x y) := by
  have swapped : residual y x = (transform? x y).2 := by
    cases x with
    | none => exact residual_none_right y
    | some a =>
      cases y with
      | none => rfl
      | some b => exact congrArg Prod.fst (transform_swap (ht a b rfl rfl))
  rw [swapped]
  exact (Replica.transform?_square hx hy).1

/-- What is left of an operation behind another one fits the replica that took the other one. -/
theorem Replica.acceptsOption_residual {s : Replica} {x y : Option Operation}
    (hx : s.AcceptsOption x) (hy : s.AcceptsOption y) :
    (s.applyOption y).AcceptsOption (residual x y) :=
  (Replica.transform?_square hx hy).2.2

/-! ## Giving way is transitive -/

/-- Among operations that fit one replica and are pairwise separate, giving way is transitive. -/
theorem yieldsTo_trans {s : Replica} {a b c : Operation} (ha : s.Accepts a) (hb : s.Accepts b)
    (hc : s.Accepts c) (hab : a.Separate b) (hbc : b.Separate c) (hac : a.Separate c)
    (h : a.YieldsTo b) (h' : b.YieldsTo c) : a.YieldsTo c := by
  -- A chain through all three kinds has a create and an update of one task, which cannot both fit.
  cases h with
  | create t => exact h'
  | delete t => exact h'
  | deleteToCreate t =>
    cases h' with
    | create => exact .deleteToCreate t
    | createToUpdate t p v i => exact absurd (hb.symm.trans hc) Bool.noConfusion
  | createToUpdate t p v i => exact absurd (ha.symm.trans hb) Bool.noConfusion
  | updateToDelete t p v i =>
    cases h' with
    | delete => exact .updateToDelete t p v i
    | deleteToCreate => exact absurd (hc.symm.trans ha) Bool.noConfusion
  | sameValue t p v i j => exact absurd rfl (hab t p v v i j rfl rfl).1
  | @earlier t p v w i j hv hi =>
    cases h' with
    | updateToDelete => exact .updateToDelete t p v i
    | sameValue _ _ _ _ k => exact absurd rfl (hbc t p w w j k rfl rfl).1
    | @earlier _ _ _ x _ k _ hj =>
      have hvx : v ≠ x := (hac t p v x i k rfl rfl).1
      exact .earlier t p hvx (timestamp_lt_trans hi hj)

/-- Where giving way is transitive, it does not matter in which order an operation is carried past
two others. -/
theorem residual_cube {a b c : Operation}
    (hba : c.YieldsTo b → b.YieldsTo a → c.YieldsTo a)
    (hab : c.YieldsTo a → a.YieldsTo b → c.YieldsTo b) :
    residual (residual c a) (residual b a) = residual (residual c b) (residual a b) := by
  simp only [residual_some]
  by_cases ha : c.YieldsTo a <;> by_cases hb : c.YieldsTo b
  · rw [if_pos ha, if_pos hb, residual_none_left, residual_none_left]
  · have stays : ¬ a.YieldsTo b := fun h => hb (hab ha h)
    rw [if_pos ha, if_neg hb, if_neg stays, residual_none_left, residual_some, if_pos ha]
  · have stays : ¬ b.YieldsTo a := fun h => ha (hba hb h)
    rw [if_neg ha, if_pos hb, if_neg stays, residual_none_left, residual_some, if_pos hb]
  · rw [if_neg ha, if_neg hb]
    have past : ∀ x y : Operation, ¬ c.YieldsTo x →
        residual c (if x.YieldsTo y then none else some x) = c := by
      intro x y hx
      split
      · exact residual_none_right _
      · rw [residual_some, if_neg hx]
    rw [past b a hb, past a b ha]

namespace Replica

variable {s : Replica} {a b c : Operation}

/-- The first two of three operations may be exchanged. -/
theorem mergeThree_swap_first (ha : s.Accepts a) (hb : s.Accepts b) (hab : a.Separate b)
    (cube : residual (residual c a) (residual b a) = residual (residual c b) (residual a b)) :
    s.mergeThree a b c = s.mergeThree b a c := by
  have square : (s.apply a).applyOption (residual b a) =
      (s.apply b).applyOption (residual a b) := by
    refine residual_square (acceptsOption_some.mpr ha) (acceptsOption_some.mpr hb) ?_
    rintro _ _ ⟨⟩ ⟨⟩
    exact hab.not_tied
  rw [mergeThree, mergeThree, square, cube]

/-- The last two of three operations may be exchanged. -/
theorem mergeThree_swap_last (ha : s.Accepts a) (hb : s.Accepts b) (hc : s.Accepts c)
    (hbc : b.Separate c) : s.mergeThree a b c = s.mergeThree a c b := by
  rw [← acceptsOption_some] at ha hb hc
  refine residual_square (acceptsOption_residual hb ha) (acceptsOption_residual hc ha) ?_
  intro b' c' hb' hc'
  rw [← eq_of_residual hb', ← eq_of_residual hc']
  exact hbc.not_tied

/-- An update and a later one that gives the property its value again drop each other, and an update
between them that gives it another value then wins or loses by which of the two it met first. -/
theorem mergeThree_same_value {t : String} (p : String) {v w : Option String} {i j k : Timestamp}
    (h : s.holds t = true) (hv : v ≠ w) (hij : i < j) (hjk : j < k) :
    (s.mergeThree (.update t p v i) (.update t p w j) (.update t p v k)).value? t p = w ∧
      (s.mergeThree (.update t p w j) (.update t p v i) (.update t p v k)).value? t p = v := by
  have second : residual (some (.update t p w j)) (some (.update t p v i)) =
      some (.update t p w j) := by
    rw [residual_some, if_neg]
    rintro (_ | _)
    · exact hv rfl
    · exact timestamp_lt_asymm hij ‹_›
  have third : residual (some (.update t p v k)) (some (.update t p v i)) = none := by
    rw [residual_some, if_pos (.sameValue t p v k i)]
  have first : residual (some (.update t p v i)) (some (.update t p w j)) = none := by
    rw [residual_some, if_pos (.earlier t p hv hij)]
  have last : residual (some (.update t p v k)) (some (.update t p w j)) =
      some (.update t p v k) := by
    rw [residual_some, if_neg]
    rintro (_ | _)
    · exact hv rfl
    · exact timestamp_lt_asymm hjk ‹_›
  constructor
  · rw [mergeThree, second, third, residual_none_left]
    exact value?_apply_update p w j ((s.holds_apply_update t p v i).trans h)
  · rw [mergeThree, first, last, residual_none_right]
    exact value?_apply_update p v k ((s.holds_apply_update t p w j).trans h)

/-- **Three operations at once.** When three operations fit and no two updates of one property agree
in value or time, an operation is carried past the other two in either order, and all six orders
lead to the same replica. That values differ is needed: two updates with one value and one with
another between them in time lead to different replicas in different orders, however far apart they
are. -/
theorem mergeThree_orders (s : Replica) :
    (∀ a b c, s.Accepts a → s.Accepts b → s.Accepts c →
      a.Separate b → b.Separate c → a.Separate c →
      residual (residual c a) (residual b a) = residual (residual c b) (residual a b) ∧
      s.mergeThree a c b = s.mergeThree a b c ∧ s.mergeThree b a c = s.mergeThree a b c ∧
      s.mergeThree b c a = s.mergeThree a b c ∧ s.mergeThree c a b = s.mergeThree a b c ∧
      s.mergeThree c b a = s.mergeThree a b c) ∧
    (∀ (t p : String) (v w : Option String) (i j k : Timestamp),
      s.holds t = true → v ≠ w → i < j → j < k →
      (s.mergeThree (.update t p v i) (.update t p w j) (.update t p v k)).value? t p = w ∧
      (s.mergeThree (.update t p w j) (.update t p v i) (.update t p v k)).value? t p = v) := by
  constructor
  · intro a b c ha hb hc hab hbc hac
    have cube : residual (residual c a) (residual b a) =
        residual (residual c b) (residual a b) :=
      residual_cube (yieldsTo_trans hc hb ha hbc.symm hab.symm hac.symm)
        (yieldsTo_trans hc ha hb hac.symm hab hbc.symm)
    have cube' : residual (residual b a) (residual c a) =
        residual (residual b c) (residual a c) :=
      residual_cube (yieldsTo_trans hb hc ha hbc hac.symm hab.symm)
        (yieldsTo_trans hb ha hc hab.symm hac hbc)
    have acb : s.mergeThree a c b = s.mergeThree a b c :=
      mergeThree_swap_last ha hc hb hbc.symm
    have bac : s.mergeThree b a c = s.mergeThree a b c :=
      (mergeThree_swap_first ha hb hab cube).symm
    have bca : s.mergeThree b c a = s.mergeThree b a c :=
      mergeThree_swap_last hb hc ha hac.symm
    have cab : s.mergeThree c a b = s.mergeThree a c b :=
      (mergeThree_swap_first ha hc hac cube').symm
    have cba : s.mergeThree c b a = s.mergeThree c a b :=
      mergeThree_swap_last hc hb ha hab.symm
    exact ⟨cube, acb, bac, bca.trans bac, cab.trans acb, cba.trans (cab.trans acb)⟩
  · intro t p v w i j k h hv hij hjk
    exact mergeThree_same_value p h hv hij hjk

/-- Three updates of one property with three values at three times, and again with the first value
for the third update. -/
theorem mergeThree_orders_due :
    let s := empty.apply (.create "abc")
    let a := Operation.update "abc" "due" (some "monday") (-1)
    let b := Operation.update "abc" "due" none 0
    let c := Operation.update "abc" "due" (some "friday") 1
    let c' := Operation.update "abc" "due" (some "monday") 1
    (s.Accepts a ∧ s.Accepts b ∧ s.Accepts c ∧ a.Separate b ∧ b.Separate c ∧ a.Separate c ∧
      residual (residual c a) (residual b a) = residual (residual c b) (residual a b) ∧
      s.mergeThree c b a = s.mergeThree a b c) ∧
    (s.mergeThree a b c').value? "abc" "due" = none ∧
      (s.mergeThree b a c').value? "abc" "due" = some "monday" := by
  intro s a b c c'
  have ha : s.Accepts a := by decide
  have hb : s.Accepts b := by decide
  have hc : s.Accepts c := by decide
  have hab : a.Separate b := Operation.separate_update (by decide) (by decide)
  have hbc : b.Separate c := Operation.separate_update (by decide) (by decide)
  have hac : a.Separate c := Operation.separate_update (by decide) (by decide)
  obtain ⟨cube, -, -, -, -, cba⟩ := (mergeThree_orders s).1 a b c ha hb hc hab hbc hac
  refine ⟨⟨ha, hb, hc, hab, hbc, hac, cube, cba⟩, ?_⟩
  exact (mergeThree_orders s).2 "abc" "due" (some "monday") none (-1) 0 1 (by decide) (by decide)
    (by decide) (by decide)

end Replica

end TaskReplicas
