import AbiTypings.Proofs.Sorting.Gallop
import AbiTypings.Sorting.Merge

/-!
# What merging keeps

Nothing is known about the answers of comparisons, so nothing can be said about the order that
merging leads to. Two things hold all the same. No element is lost or made up, since every stretch
is cut off and put down as it is, and a fault is that of a comparison of two of the elements.
`Merges` is this statement.

A third thing is known: two runs are not merged without comparing an element of one with an element
of the other. This is what tells later that a list was sorted only if its elements can be compared.
-/

namespace AbiTypings.Sorting

variable {α ε : Type} {before : α → α → Except ε Bool} {m : Merging α ε} {patience : Nat}
  {xs ys zs front keeper guest : List α}

/-! ## Faults of comparisons -/

/-- The comparison of two of the elements fails, with this fault. -/
def Incomparable (before : α → α → Except ε Bool) (xs : List α) (fault : ε) : Prop :=
  ∃ x ∈ xs, ∃ y ∈ xs, before x y = .error fault

theorem Incomparable.mono {fault : ε} (h : Incomparable before xs fault) (hsub : xs ⊆ ys) :
    Incomparable before ys fault := by
  obtain ⟨x, hx, y, hy, hfault⟩ := h
  exact ⟨x, hsub hx, y, hsub hy, hfault⟩

theorem Gives.among {β : Type} {P : β → Prop} {step : Except ε β}
    (h : Gives (Incomparable before xs) P step) (hsub : xs ⊆ ys) :
    Gives (Incomparable before ys) P step :=
  h.mono (fun _ hfault ↦ hfault.mono hsub) fun _ ↦ id

theorem Incomparable.swap {fault : ε} (h : Incomparable (fun x y ↦ before y x) xs fault) :
    Incomparable before xs fault := by
  obtain ⟨x, hx, y, hy, hfault⟩ := h
  exact ⟨y, hy, x, hx, hfault⟩

theorem fails_testAt {F : ε → Prop} {test : α → Except ε Bool}
    (h : ∀ x ∈ xs, ∀ fault, test x = .error fault → F fault) (fault : ε)
    (hfails : FailsSomewhere (testAt test xs) fault) : F fault := by
  obtain ⟨i, hi⟩ := hfails
  rw [testAt] at hi
  split at hi
  · next x hx => exact h x (List.mem_of_getElem? hx) fault hi
  · cases hi

theorem exists_of_answers_testAt {test : α → Except ε Bool} {i : Nat}
    (h : Answers (testAt test xs) i) (hi : i < xs.length) :
    ∃ answer, test xs[i] = .ok answer := by
  obtain ⟨answer, hanswer⟩ := h
  rw [testAt, List.getElem?_eq_getElem hi] at hanswer
  exact ⟨answer, hanswer⟩

theorem map_not_eq_error_iff {step : Except ε Bool} {fault : ε} :
    step.map (!·) = .error fault ↔ step = .error fault := by
  cases step with
  | ok answer => simp [Except.map]
  | error fault' => simp [Except.map]

theorem exists_of_map_not {step : Except ε Bool} (h : ∃ answer, step.map (!·) = .ok answer) :
    ∃ answer, step = .ok answer := by
  cases step with
  | ok answer => exact ⟨answer, rfl⟩
  | error fault =>
    obtain ⟨answer, hanswer⟩ := h
    cases hanswer

theorem Merging.gives_leading {F : ε → Prop} {test : α → Except ε Bool}
    (h : ∀ x ∈ xs, ∀ fault, test x = .error fault → F fault) (m : Merging α ε) :
    Gives F (fun _ ↦ True) (m.leading test xs) := by
  rw [Merging.leading]
  split
  · exact (gives_gallop _ _ _).mono (fails_testAt h) fun _ _ ↦ trivial
  · refine Gives.bind (P := fun _ ↦ True) ?_ fun _ _ ↦ trivial
    refine (gives_gallop _ _ _).mono (fun fault ⟨i, hfault⟩ ↦ ?_) fun _ _ ↦ trivial
    exact fails_testAt h fault ⟨_, negate_eq_error_iff.mp hfault⟩

/-! ## Stretches -/

/-- Everything a stretch was taken from. -/
def Taken.items : Taken α → List α
  | .all merged => merged
  | .some front _ keeper guest => front ++ (keeper ++ guest)

theorem perm_passing (front passed rest : List α) (x : α) :
    (front ++ x :: (passed ++ rest)).Perm (front ++ passed ++ x :: rest) := by
  rw [List.append_assoc]
  exact List.perm_middle.symm.append_left front

theorem Merging.gives_takeKeeper (m : Merging α ε) (keeper guest : List α) :
    Gives (Incomparable m.passes (keeper ++ guest)) (fun t ↦ t.items.Perm (keeper ++ guest))
      (m.takeKeeper keeper guest) := by
  cases guest with
  | nil => exact List.Perm.of_eq (List.append_nil keeper).symm
  | cons g guest =>
    have hpasses : ∀ k ∈ keeper, ∀ fault, (m.passes g k).map (!·) = .error fault →
        Incomparable m.passes (keeper ++ g :: guest) fault :=
      fun k hk fault hfault ↦ ⟨g, List.mem_append_right _ List.mem_cons_self, k,
        List.mem_append_left _ hk, map_not_eq_error_iff.mp hfault⟩
    rw [takeKeeper]
    refine (gives_leading hpasses m).bind fun n _ ↦ ?_
    clear hpasses
    dsimp only
    -- wherever the stretch ends, what counts is that its two parts make the whole
    have hkeeper : keeper.take n ++ keeper.drop n = keeper := List.take_append_drop n keeper
    generalize keeper.take n = front at hkeeper ⊢
    generalize keeper.drop n = rest at hkeeper ⊢
    subst hkeeper
    match rest with
    | [] => exact List.Perm.of_eq (by rw [List.append_nil]; rfl)
    | [last] =>
      have hlast : (front ++ g :: guest ++ [last]).Perm (front ++ [last] ++ g :: guest) := by
        rw [List.append_assoc, List.append_assoc]
        exact List.perm_append_comm.append_left front
      exact hlast
    | k :: k' :: rest =>
      dsimp only
      cases guest with
      | nil =>
        have hall := perm_passing front (k :: k' :: rest) [] g
        rw [List.append_nil] at hall
        exact hall
      | cons g' guest =>
        have hsome := perm_passing front (k :: k' :: rest) (g' :: guest) g
        rw [List.append_cons] at hsome
        exact hsome

theorem Merging.gives_takeGuest (m : Merging α ε) (keeper guest : List α) :
    Gives (Incomparable m.passes (keeper ++ guest)) (fun t ↦ t.items.Perm (keeper ++ guest))
      (m.takeGuest keeper guest) := by
  cases keeper with
  | nil => exact List.Perm.refl guest
  | cons k keeper =>
    have hpasses : ∀ g ∈ guest, ∀ fault, m.passes g k = .error fault →
        Incomparable m.passes (k :: keeper ++ guest) fault :=
      fun g hg fault hfault ↦ ⟨g, List.mem_append_right _ hg, k, List.mem_append_left _
        List.mem_cons_self, hfault⟩
    rw [takeGuest]
    refine (gives_leading hpasses m).bind fun n _ ↦ ?_
    clear hpasses
    dsimp only
    -- as in `gives_takeKeeper`, with the parts taken from the other run
    have hguest : guest.take n ++ guest.drop n = guest := List.take_append_drop n guest
    generalize guest.take n = front at hguest ⊢
    generalize guest.drop n = rest at hguest ⊢
    subst hguest
    have hfront : (front ++ ((k :: keeper) ++ rest)).Perm (k :: keeper ++ (front ++ rest)) :=
      List.perm_append_comm_assoc front (k :: keeper) rest
    match rest, keeper with
    | [], keeper =>
      rw [List.append_nil] at hfront
      exact hfront
    | g :: rest, [last] =>
      have hlast : (k :: (g :: rest ++ [last])).Perm (k :: [last] ++ g :: rest) :=
        List.Perm.cons k List.perm_append_comm
      have hall := (hlast.append_left front).trans hfront
      rw [← List.cons_append, ← List.append_assoc] at hall
      exact hall
    | g :: rest, [] =>
      rw [List.cons_append, List.append_cons] at hfront
      exact hfront
    | g :: rest, k' :: k'' :: keeper =>
      rw [List.cons_append, List.append_cons] at hfront
      exact hfront

/-! ## Merging from one end -/

/-- A merge gives all elements back, and a fault is that of a comparison of two of them. -/
def Merges (before : α → α → Except ε Bool) (xs : List α) : Except ε (List α × Nat) → Prop :=
  Gives (Incomparable before xs) fun merged ↦ merged.1.Perm xs

theorem Merges.behind {step : Except ε (List α × Nat)} (h : Merges before ys step)
    (hperm : (front ++ ys).Perm xs) : Merges before xs (behind front step) := by
  have hsub : ys ⊆ xs := fun y hy ↦ hperm.subset (List.mem_append_right front hy)
  have hfront : Gives (Incomparable before xs)
      (fun merged : List α × Nat ↦ merged.1.Perm xs) (Sorting.behind front step) :=
    (h.among hsub).map fun merged hmerged ↦
      (hmerged.append_left front).trans hperm
  exact hfront

section Run

variable {steps : Nat}
  (ih : ∀ (patience : Nat) (pace : Pace) (keeper guest : List α),
    Merges m.passes (keeper ++ guest) (m.run steps patience pace keeper guest))

include ih

/-- One element is taken, from the run that wins. -/
theorem Merging.merges_run_single (patience keeperWins guestWins : Nat) (keeper guest : List α) :
    Merges m.passes (keeper ++ guest)
      (m.run (steps + 1) patience (.single keeperWins guestWins) keeper guest) := by
  match keeper, guest with
  | [], guest => exact List.Perm.refl _
  | k :: keeper, [] => exact List.Perm.refl _
  | k :: keeper, g :: guest =>
    have hcompared : Gives (Incomparable m.passes (k :: keeper ++ g :: guest))
        (fun _ ↦ True) (m.passes g k) :=
      (gives_self _).mono (fun fault hfault ↦ ⟨g, List.mem_append_right _ List.mem_cons_self, k,
        List.mem_append_left _ List.mem_cons_self, hfault⟩) fun _ _ ↦ trivial
    have hguest : (g :: (k :: keeper ++ guest)).Perm (k :: keeper ++ g :: guest) :=
      List.perm_middle.symm
    rw [run.eq_def]
    dsimp only
    refine hcompared.bind fun passes _ ↦ ?_
    cases passes with
    | true =>
      rw [if_pos rfl]
      split
      · next hempty =>
        rw [List.isEmpty_iff.mp hempty, List.append_nil] at hguest
        rw [List.isEmpty_iff.mp hempty]
        exact hguest
      · split
        · exact (ih _ _ (k :: keeper) guest).behind hguest
        · exact (ih _ _ (k :: keeper) guest).behind hguest
    | false =>
      rw [if_neg Bool.false_ne_true]
      -- the last element of the keeper goes behind the whole guest without another comparison
      match keeper with
      | [last] =>
        have hlast : (g :: guest ++ [last]).Perm ([last] ++ g :: guest) := List.perm_append_comm
        exact hlast.cons k
      | [] =>
        dsimp only
        split
        · exact (ih _ _ [] (g :: guest)).behind (List.Perm.refl _)
        · exact (ih _ _ [] (g :: guest)).behind (List.Perm.refl _)
      | k' :: k'' :: keeper =>
        dsimp only
        split
        · exact (ih _ _ (k' :: k'' :: keeper) (g :: guest)).behind (List.Perm.refl _)
        · exact (ih _ _ (k' :: k'' :: keeper) (g :: guest)).behind (List.Perm.refl _)

/-- A stretch is taken from each run. -/
theorem Merging.merges_run_galloping (patience : Nat) (keeper guest : List α) :
    Merges m.passes (keeper ++ guest) (m.run (steps + 1) patience .galloping keeper guest) := by
  rw [run.eq_def]
  refine Gives.ite_bind (m.gives_takeKeeper keeper guest) (m.gives_takeGuest keeper guest)
    fun taken hperm ↦ ?_
  cases taken with
  | all merged => exact hperm
  | some front₁ n₁ keeper₁ guest₁ =>
    have hsub : keeper₁ ++ guest₁ ⊆ keeper ++ guest := fun x hx ↦
      hperm.subset (List.mem_append_right front₁ hx)
    have hkeeper := (m.gives_takeKeeper keeper₁ guest₁).among hsub
    have hguest := (m.gives_takeGuest keeper₁ guest₁).among hsub
    refine Gives.ite_bind hguest hkeeper fun taken hperm' ↦ ?_
    have hall : (front₁ ++ taken.items).Perm (keeper ++ guest) :=
      (hperm'.append_left front₁).trans hperm
    cases taken with
    | all merged => exact hall
    | some front₂ n₂ keeper₂ guest₂ =>
      rw [Taken.items, ← List.append_assoc] at hall
      dsimp only
      split
      · exact (ih _ _ keeper₂ guest₂).behind hall
      · exact (ih _ _ keeper₂ guest₂).behind hall

end Run

/-- **Merging from one end.** However a merge goes on, at whatever pace, the elements it starts from
are all there in the end. -/
theorem Merging.merges_run (m : Merging α ε) (steps patience : Nat) (pace : Pace)
    (keeper guest : List α) :
    Merges m.passes (keeper ++ guest) (m.run steps patience pace keeper guest) := by
  -- the pace changes from step to step, so both paces share one induction
  induction steps generalizing patience pace keeper guest with
  | zero => exact List.Perm.refl _
  | succ steps ih =>
    cases pace with
    | single keeperWins guestWins => exact merges_run_single ih _ _ _ _ _
    | galloping => exact merges_run_galloping ih _ _ _

theorem Merging.merges_start (m : Merging α ε) (patience : Nat) (keeper guest : List α) :
    Merges m.passes (keeper ++ guest) (m.start patience keeper guest) := by
  have hrun (g : α) (keeper guest : List α) : Merges m.passes (keeper ++ g :: guest)
      (behind [g]
        (m.run (keeper.length + guest.length) patience (.single 0 0) keeper guest)) := by
    refine (m.merges_run _ _ _ keeper guest).behind ?_
    rw [List.singleton_append]
    exact List.perm_middle.symm
  match keeper, guest with
  | [last], guest => exact List.perm_append_comm
  | [], [] => exact List.Perm.refl _
  | [], [g] => exact List.Perm.refl _
  | [], g :: g' :: guest => exact hrun g [] (g' :: guest)
  | k :: k' :: keeper, [] => exact List.Perm.of_eq (List.append_nil _).symm
  | k :: k' :: keeper, [g] =>
    have hswap : ([g] ++ k :: k' :: keeper).Perm (k :: k' :: keeper ++ [g]) :=
      List.perm_append_comm
    exact hswap
  | k :: k' :: keeper, g :: g' :: guest => exact hrun g (k :: k' :: keeper) (g' :: guest)

/-! ## Merging two runs -/

theorem merges_mergeWhole (before : α → α → Except ε Bool) (patience : Nat) (left right : List α) :
    Merges before (left ++ right) (mergeWhole before patience left right) := by
  rw [mergeWhole]
  split
  · exact Merging.merges_start ⟨true, before⟩ patience left right
  -- from the other end the runs are reversed and change places, and so are comparisons
  · have hstart := Merging.merges_start (⟨false, fun g k ↦ before k g⟩ : Merging α ε) patience
      right.reverse left.reverse
    have hperm : (right.reverse ++ left.reverse).Perm (left ++ right) := by
      rw [← List.reverse_append]
      exact List.reverse_perm _
    refine (hstart.mono (fun fault hfault ↦ ?_) fun _ ↦ id).map fun merged hmerged ↦ ?_
    · exact hfault.swap.mono hperm.subset
    · exact (List.reverse_perm _).trans (hmerged.trans hperm)

theorem perm_around {merged left right : List α} (h : merged.Perm (left ++ right))
    (front back : List α) : (front ++ merged ++ back).Perm (front ++ left ++ (right ++ back)) := by
  rw [List.append_assoc, List.append_assoc, ← List.append_assoc left right back]
  exact (h.append_right back).append_left front

theorem merges_mergeRuns (before : α → α → Except ε Bool) (patience : Nat) (xs ys : List α) :
    Merges before (xs ++ ys) (mergeRuns before patience xs ys) := by
  cases ys with
  | nil => exact List.Perm.of_eq (List.append_nil xs).symm
  | cons y ys =>
    have hplaced : ∀ x ∈ xs, ∀ fault, (before y x).map (!·) = .error fault →
        Incomparable before (xs ++ y :: ys) fault :=
      fun x hx fault hfault ↦ ⟨y, List.mem_append_right _ List.mem_cons_self, x,
        List.mem_append_left _ hx, map_not_eq_error_iff.mp hfault⟩
    rw [mergeRuns]
    refine ((gives_gallop _ _ _).mono (fails_testAt hplaced) fun _ ↦ id).bind fun placed _ ↦ ?_
    dsimp only
    split
    · exact List.Perm.refl _
    · next x hx =>
      have hmem : x ∈ xs := List.mem_of_mem_drop (List.mem_of_getLast? hx)
      have hunplaced : ∀ y' ∈ y :: ys, ∀ fault, before y' x = .error fault →
          Incomparable before (xs ++ y :: ys) fault :=
        fun y' hy' fault hfault ↦ ⟨y', List.mem_append_right _ hy', x,
          List.mem_append_left _ hmem, hfault⟩
      refine ((gives_gallop _ _ _).mono (fails_testAt hunplaced) fun _ ↦ id).bind
        fun unplaced _ ↦ ?_
      split
      · exact List.Perm.refl _
      -- what is in its place already stays there, and only the middle is merged
      · have hsub : xs.drop placed ++ (y :: ys).take unplaced ⊆ xs ++ y :: ys :=
          List.append_subset.mpr
            ⟨List.subset_append_of_subset_left _ (List.drop_subset _ _),
              List.subset_append_of_subset_right _ (List.take_subset _ _)⟩
        have hwhole := merges_mergeWhole before patience (xs.drop placed) ((y :: ys).take unplaced)
        refine (hwhole.among hsub).bind fun merged hmerged ↦ ?_
        have haround := perm_around hmerged (xs.take placed) ((y :: ys).drop unplaced)
        rw [List.take_append_drop, List.take_append_drop] at haround
        exact haround

/-- Two runs are merged only after the first element of the second one was compared with the first
element of the first one. -/
theorem exists_before_of_mergeRuns {x y : α} {merged : List α × Nat}
    (h : mergeRuns before patience (x :: xs) (y :: ys) = .ok merged) :
    ∃ answer, before y x = .ok answer := by
  have hplaced := gives_gallop (testAt (fun x ↦ (before y x).map (!·)) (x :: xs)) (x :: xs).length 0
  rw [mergeRuns] at h
  cases hstep : gallop (testAt (fun x ↦ (before y x).map (!·)) (x :: xs)) (x :: xs).length 0 with
  | error fault =>
    rw [hstep] at h
    cases h
  | ok placed =>
    exact exists_of_map_not (exists_of_answers_testAt (hplaced.of_ok hstep) (Nat.zero_lt_succ _))

end AbiTypings.Sorting
