import AbiTypings.Sorting.Gallop

/-!
# Faults of a search

A search asks its test at several places and fails exactly where the test does, so its fault is one
of the test. When it succeeds, it has asked the test at a place known beforehand, and had an answer
there: galloping asks at the place where it starts, and halving asks somewhere in a stretch that is
not empty. Which place is found does not matter here.

`Gives F P` is the judgement for that: a step gives a value with the property `P`, or a fault with
the property `F`.
-/

namespace AbiTypings.Sorting

variable {α β ε : Type}

/-! ## Steps -/

section Gives

variable {F F' : ε → Prop} {P P' : α → Prop} {Q : β → Prop} {step : Except ε α}

/-- A step gives a value with a property, or a fault with another one. -/
def Gives (F : ε → Prop) (P : α → Prop) : Except ε α → Prop
  | .ok a => P a
  | .error fault => F fault

theorem Gives.of_ok (h : Gives F P step) {a : α} (ha : step = .ok a) : P a := by
  subst ha
  exact h

theorem Gives.of_error (h : Gives F P step) {fault : ε} (hfault : step = .error fault) :
    F fault := by
  subst hfault
  exact h

theorem Gives.mono (h : Gives F P step) (hF : ∀ fault, F fault → F' fault)
    (hP : ∀ a, P a → P' a) : Gives F' P' step := by
  cases step with
  | ok a => exact hP a h
  | error fault => exact hF fault h

theorem Gives.bind {next : α → Except ε β} (h : Gives F P step)
    (hnext : ∀ a, P a → Gives F Q (next a)) : Gives F Q (step >>= next) := by
  cases step with
  | ok a => exact hnext a h
  | error fault => exact h

theorem Gives.ite_bind {c : Prop} [Decidable c] {step' : Except ε α} {next : α → Except ε β}
    (h : Gives F P step) (h' : Gives F P step') (hnext : ∀ a, P a → Gives F Q (next a)) :
    Gives F Q (if c then step >>= next else step' >>= next) := by
  split
  · exact h.bind hnext
  · exact h'.bind hnext

theorem Gives.map {f : α → β} (h : Gives F P step) (hf : ∀ a, P a → Q (f a)) :
    Gives F Q (step.map f) := by
  cases step with
  | ok a => exact hf a h
  | error fault => exact h

theorem gives_self (step : Except ε α) :
    Gives (fun fault ↦ step = .error fault) (fun a ↦ step = .ok a) step := by
  cases step with
  | ok a => rfl
  | error fault => rfl

end Gives

/-! ## Places -/

/-- A test fails somewhere, with this fault. -/
def FailsSomewhere (test : Nat → Except ε Bool) (fault : ε) : Prop :=
  ∃ i, test i = .error fault

/-- A test has an answer at a place. -/
def Answers (test : Nat → Except ε Bool) (i : Nat) : Prop := ∃ answer, test i = .ok answer

variable {test : Nat → Except ε Bool}

theorem gives_test (test : Nat → Except ε Bool) (i : Nat) :
    Gives (FailsSomewhere test) (fun _ ↦ Answers test i) (test i) :=
  (gives_self (test i)).mono (fun _ hfault ↦ ⟨i, hfault⟩) fun answer hanswer ↦ ⟨answer, hanswer⟩

theorem negate_eq_error_iff {i : Nat} {fault : ε} :
    negate test i = .error fault ↔ test i = .error fault := by
  rw [negate]
  cases test i with
  | ok answer => simp [Except.map]
  | error fault' => simp [Except.map]

/-! ## Searching -/

/-- Halving a stretch that is not empty asks the test in it. -/
theorem gives_bisect (test : Nat → Except ε Bool) (low high : Nat) :
    Gives (FailsSomewhere test) (fun _ ↦ low < high → ∃ i, low ≤ i ∧ i < high ∧ Answers test i)
      (bisect test low high) := by
  induction low, high using bisect.induct with
  | case1 low high hlt middle ihhigh ihlow =>
    rw [bisect, if_pos hlt]
    refine (gives_test test middle).bind fun answer hanswer ↦ ?_
    -- one question is enough, whatever the halves are asked later
    have hasked : ∃ i, low ≤ i ∧ i < high ∧ Answers test i :=
      ⟨middle, by omega, by omega, hanswer⟩
    cases answer with
    | true => exact ihhigh.mono (fun _ ↦ id) fun _ _ _ ↦ hasked
    | false => exact ihlow.mono (fun _ ↦ id) fun _ _ _ ↦ hasked
  | case2 low high hge =>
    rw [bisect, if_neg hge]
    exact fun hlt ↦ absurd hlt hge

theorem gives_stride (test : Nat → Except ε Bool) (limit last next : Nat) :
    Gives (FailsSomewhere test) (fun _ ↦ True) (stride test limit last next) := by
  induction last, next using stride.induct limit with
  | case1 last next hlt ih =>
    rw [stride, if_pos hlt]
    refine (gives_test test next).bind fun answer _ ↦ ?_
    cases answer with
    | true => exact ih
    | false => trivial
  | case2 last next hge =>
    rw [stride, if_neg hge]
    trivial

theorem gives_gallop (test : Nat → Except ε Bool) (size start : Nat) :
    Gives (FailsSomewhere test) (fun _ ↦ Answers test start) (gallop test size start) := by
  refine (gives_test test start).bind fun answer hanswer ↦ ?_
  cases answer with
  | true =>
    have hstride := gives_stride (fun d ↦ test (start + d)) (size - start) 0 1
    refine (hstride.mono (fun _ ⟨d, hfault⟩ ↦ ⟨_, hfault⟩) fun _ ↦ id).bind fun _ _ ↦ ?_
    exact (gives_bisect test _ _).mono (fun _ ↦ id) fun _ _ ↦ hanswer
  | false =>
    have hstride := gives_stride (fun d ↦ negate test (start - d)) (start + 1) 0 1
    refine (hstride.mono (fun _ ⟨d, hfault⟩ ↦ ⟨_, negate_eq_error_iff.mp hfault⟩) fun _ ↦ id).bind
      fun _ _ ↦ ?_
    exact (gives_bisect test _ _).mono (fun _ ↦ id) fun _ _ ↦ hanswer

end AbiTypings.Sorting
