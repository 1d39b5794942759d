import AbiTypings.Proofs.Sorting.Merge
import AbiTypings.Sorting.Runs

/-!
# When a list can be sorted

Where every two elements can be compared, sorting does not fail; where the elements are of several
kinds and comparisons across kinds fail, it does not succeed. The second half holds although most
pairs are never compared: a run grows by elements that were compared with one of its own, and two
runs become one only after an element of the one was compared with an element of the other. So all
elements that end up in one run are of one kind (`IsRun`), and in the end there is one run.

Each step has one statement, on what it gives and on how it fails. `Gathers` is the statement for
the steps that work on pending runs.
-/

namespace AbiTypings.Sorting

variable {α β κ ε : Type} {before : α → α → Except ε Bool} {kind : α → κ} {patience : Nat}
  {xs ys run : List α}

/-! ## Kinds -/

/-- Only elements of one kind can be compared. -/
def AnswersWithin (kind : α → κ) (before : α → α → Except ε Bool) : Prop :=
  ∀ ⦃x y answer⦄, before x y = .ok answer → kind x = kind y

/-- All elements are of one kind. -/
def Uniform (kind : α → κ) (xs : List α) : Prop := ∀ x ∈ xs, ∀ y ∈ xs, kind x = kind y

/-- What can become a run: elements of one kind, at least one. -/
structure IsRun (kind : α → κ) (run : List α) : Prop where
  /-- There is an element. -/
  nonempty : run ≠ []
  /-- All elements are of its kind. -/
  uniform : Uniform kind run

theorem Uniform.subset (h : Uniform kind ys) (hsub : xs ⊆ ys) : Uniform kind xs :=
  fun x hx y hy ↦ h x (hsub hx) y (hsub hy)

theorem uniform_of_forall {x : α} (h : ∀ z ∈ xs, kind z = kind x) : Uniform kind xs :=
  fun z hz z' hz' ↦ (h z hz).trans (h z' hz').symm

theorem Uniform.append {x y : α} (hxs : Uniform kind xs) (hys : Uniform kind ys) (hx : x ∈ xs)
    (hy : y ∈ ys) (hxy : kind x = kind y) : Uniform kind (xs ++ ys) := by
  refine uniform_of_forall (x := x) fun z hz ↦ ?_
  rcases List.mem_append.mp hz with hz | hz
  · exact hxs z hz x hx
  · exact (hys z hz y hy).trans hxy.symm

theorem uniform_singleton (kind : α → κ) (x : α) : Uniform kind [x] := by
  intro y hy z hz
  rw [List.mem_singleton.mp hy, List.mem_singleton.mp hz]

theorem isRun_singleton (kind : α → κ) (x : α) : IsRun kind [x] :=
  ⟨List.cons_ne_nil x [], uniform_singleton kind x⟩

theorem IsRun.perm (h : IsRun kind xs) (hperm : ys.Perm xs) : IsRun kind ys :=
  ⟨fun hnil ↦ h.nonempty (List.nil_perm.mp (hnil ▸ hperm)), h.uniform.subset hperm.subset⟩

theorem take_append_drop_take (n k : Nat) (xs : List α) :
    xs.take n ++ (xs.take k).drop n = xs.take (max n k) := by
  rcases Nat.le_total n k with hle | hle
  · have htake : (xs.take k).take n = xs.take n := by rw [List.take_take, Nat.min_eq_left hle]
    rw [← htake, List.take_append_drop, Nat.max_eq_right hle]
  · have hlength : (xs.take k).length ≤ n := Nat.le_trans (List.length_take_le k xs) hle
    rw [List.drop_eq_nil_of_le hlength, List.append_nil, Nat.max_eq_left hle]

section Kinds

variable (hkind : AnswersWithin kind before)

include hkind

theorem gives_before {x y : α} (hx : x ∈ xs) (hy : y ∈ xs) :
    Gives (Incomparable before xs) (fun _ ↦ kind x = kind y) (before x y) :=
  (gives_self _).mono (fun _ hfault ↦ ⟨x, hx, y, hy, hfault⟩) fun _ hanswer ↦ hkind hanswer

/-! ## Cutting off a run -/

/-- Every element that continues a run was compared with the one before it. -/
theorem gives_runLength (falling : Bool) (last : α) (xs : List α) :
    Gives (Incomparable before (last :: xs)) (fun n ↦ ∀ z ∈ xs.take n, kind z = kind last)
      (runLength before falling last xs) := by
  induction xs generalizing last with
  | nil => exact fun z hz ↦ absurd hz List.not_mem_nil
  | cons x xs ih =>
    have hx : x ∈ last :: x :: xs := List.mem_cons_of_mem last List.mem_cons_self
    rw [runLength]
    refine (gives_before hkind hx List.mem_cons_self).bind fun answer hlast ↦ ?_
    split
    · refine ((ih x).among (List.subset_cons_self _ _)).bind fun n hn ↦ ?_
      refine List.forall_mem_cons.mpr ⟨hlast, fun z hz ↦ ?_⟩
      exact (hn z hz).trans hlast
    · exact fun z hz ↦ absurd hz List.not_mem_nil

/-- An element was compared with one of the run it is inserted into. -/
theorem gives_insertInto (hrun : IsRun kind run) (x : α) :
    Gives (Incomparable before (run ++ [x])) (fun longer ↦ longer.Perm (run ++ [x]) ∧
      IsRun kind longer) (insertInto before run x) := by
  have hx : x ∈ run ++ [x] := List.mem_append_right run (List.mem_singleton.mpr rfl)
  have hfails : ∀ y ∈ run, ∀ fault, (before x y).map (!·) = .error fault →
      Incomparable before (run ++ [x]) fault := fun y hy fault hfault ↦
    ⟨x, hx, y, List.mem_append_left _ hy, map_not_eq_error_iff.mp hfault⟩
  -- the run is not empty, so halving it asks for a comparison with one of its elements
  refine ((gives_bisect _ 0 run.length).mono (fails_testAt hfails) fun _ ↦ id).bind
    fun place hplace ↦ ?_
  have hperm : (run.take place ++ x :: run.drop place).Perm (run ++ [x]) := by
    have hmiddle : (run.take place ++ x :: run.drop place).Perm
        (x :: (run.take place ++ run.drop place)) := List.perm_middle
    rw [List.take_append_drop] at hmiddle
    exact hmiddle.trans (List.perm_append_singleton x run).symm
  obtain ⟨i, -, hi, hanswers⟩ := hplace (List.length_pos_iff.mpr hrun.nonempty)
  obtain ⟨answer, hanswer⟩ := exists_of_map_not (exists_of_answers_testAt hanswers hi)
  have huniform := hrun.uniform.append (uniform_singleton kind x) (List.getElem_mem hi)
    (List.mem_singleton.mpr rfl) (hkind hanswer).symm
  exact ⟨hperm, List.append_ne_nil_of_right_ne_nil _ (List.cons_ne_nil _ _),
    huniform.subset hperm.subset⟩

theorem gives_insertAll (hrun : IsRun kind run) (items : List α) :
    Gives (Incomparable before (run ++ items)) (fun longer ↦ longer.Perm (run ++ items) ∧
      IsRun kind longer) (items.foldlM (insertInto before) run) := by
  induction items generalizing run with
  | nil => exact ⟨List.Perm.of_eq (List.append_nil run).symm, hrun⟩
  | cons x items ih =>
    have hsub : run ++ [x] ⊆ run ++ x :: items := by
      rw [List.append_cons run x items]
      exact List.subset_append_left _ _
    rw [List.foldlM_cons]
    refine ((gives_insertInto hkind hrun x).among hsub).bind fun longer ⟨hperm, hlonger⟩ ↦ ?_
    have hall : (longer ++ items).Perm (run ++ x :: items) := by
      rw [List.append_cons]
      exact hperm.append_right items
    exact (ih hlonger).mono (fun _ h ↦ h.mono hall.subset) fun _ h ↦ ⟨h.1.trans hall, h.2⟩

theorem gives_firstRun (least : Nat) (x : α) (xs : List α) :
    Gives (Incomparable before (x :: xs))
      (fun run ↦ run.Perm ((x :: xs).take run.length) ∧ IsRun kind run)
      (firstRun before least x xs) := by
  cases xs with
  | nil => exact ⟨List.Perm.refl _, isRun_singleton kind x⟩
  | cons y ys =>
    have hy : y ∈ x :: y :: ys := List.mem_cons_of_mem x List.mem_cons_self
    rw [firstRun]
    refine (gives_before hkind hy List.mem_cons_self).bind fun falling hyx ↦ ?_
    have hlength := gives_runLength hkind falling y ys
    refine (hlength.among (List.subset_cons_self _ _)).bind fun n hn ↦ ?_
    dsimp only
    -- what is in order already was compared neighbour by neighbour
    have hnatural : IsRun kind ((x :: y :: ys).take (2 + n)) := by
      rw [Nat.add_comm, List.take_succ_cons, List.take_succ_cons]
      refine ⟨List.cons_ne_nil _ _, uniform_of_forall (x := y) ?_⟩
      exact List.forall_mem_cons.mpr ⟨hyx.symm, List.forall_mem_cons.mpr ⟨rfl, hn⟩⟩
    generalize hstart : (if falling then ((x :: y :: ys).take (2 + n)).reverse
      else (x :: y :: ys).take (2 + n)) = start
    have hperm : start.Perm ((x :: y :: ys).take (2 + n)) := by
      rw [← hstart]
      split
      · exact List.reverse_perm _
      · exact List.Perm.refl _
    have hall := hperm.append_right (((x :: y :: ys).take least).drop (2 + n))
    rw [take_append_drop_take] at hall
    have hsub : start ++ ((x :: y :: ys).take least).drop (2 + n) ⊆ x :: y :: ys :=
      fun z hz ↦ List.mem_of_mem_take (hall.subset hz)
    have hinsert := gives_insertAll hkind (hnatural.perm hperm)
      (((x :: y :: ys).take least).drop (2 + n))
    refine hinsert.mono (fun _ h ↦ h.mono hsub) fun run hrun ↦ ⟨?_, hrun.2⟩
    have hfront := hrun.1.trans hall
    rw [hfront.length_eq, ← List.prefix_iff_eq_take.mp (List.take_prefix _ _)]
    exact hfront

/-! ## Pending runs -/

theorem gives_mergeRuns (patience : Nat) (hxs : IsRun kind xs) (hys : IsRun kind ys) :
    Gives (Incomparable before (xs ++ ys))
      (fun merged ↦ merged.1.Perm (xs ++ ys) ∧ IsRun kind merged.1)
      (mergeRuns before patience xs ys) := by
  have hmerges := merges_mergeRuns before patience xs ys
  cases hstep : mergeRuns before patience xs ys with
  | error fault => exact hmerges.of_error hstep
  | ok merged =>
    have hperm := hmerges.of_ok hstep
    refine ⟨hperm, IsRun.perm ⟨List.append_ne_nil_of_left_ne_nil hxs.nonempty _, ?_⟩ hperm⟩
    obtain ⟨x, xs, rfl⟩ := List.exists_cons_of_ne_nil hxs.nonempty
    obtain ⟨y, ys, rfl⟩ := List.exists_cons_of_ne_nil hys.nonempty
    -- the first elements of both runs were compared, so the kinds of the runs agree
    obtain ⟨answer, hanswer⟩ := exists_before_of_mergeRuns hstep
    exact hxs.uniform.append hys.uniform List.mem_cons_self List.mem_cons_self
      (hkind hanswer).symm

theorem Gives.merge {P : β → Prop} {others all : List α} {next : List α × Nat → Except ε β}
    (hxs : IsRun kind xs) (hys : IsRun kind ys) (hall : (xs ++ ys ++ others).Perm all)
    (hnext : ∀ run patience, IsRun kind run → (run ++ others).Perm all →
      Gives (Incomparable before all) P (next (run, patience))) :
    Gives (Incomparable before all) P (mergeRuns before patience xs ys >>= next) := by
  have hsub : xs ++ ys ⊆ all := fun z hz ↦ hall.subset (List.mem_append_left _ hz)
  refine ((gives_mergeRuns hkind patience hxs hys).among hsub).bind
    fun merged ⟨hperm, hmerged⟩ ↦ ?_
  exact hnext merged.1 merged.2 hmerged ((hperm.append_right others).trans hall)

end Kinds

/-- All elements of pending runs. -/
def contents (runs : List (Pending α)) : List α := runs.flatMap Pending.items

theorem contents_cons (run : Pending α) (runs : List (Pending α)) :
    contents (run :: runs) = run.items ++ contents runs :=
  List.flatMap_cons

/-- A step leads to runs that hold the given elements, and its fault is that of a comparison of two
of them. -/
def Gathers (before : α → α → Except ε Bool) (kind : α → κ) (xs : List α) :
    Except ε (List (Pending α) × Nat) → Prop :=
  Gives (Incomparable before xs) fun gathered ↦
    (contents gathered.1).Perm xs ∧ ∀ run ∈ gathered.1, IsRun kind run.items

theorem Gathers.perm {step : Except ε (List (Pending α) × Nat)} (h : Gathers before kind xs step)
    (hperm : xs.Perm ys) : Gathers before kind ys step :=
  h.mono (fun _ hfault ↦ hfault.mono hperm.subset) fun _ hgathered ↦
    ⟨hgathered.1.trans hperm, hgathered.2⟩

/-- A step leads to the given elements in another order, and all are of one kind; its fault is that
of a comparison of two of them. -/
def Sorts (before : α → α → Except ε Bool) (kind : α → κ) (xs : List α) :
    Except ε (List α) → Prop :=
  Gives (Incomparable before xs) fun sorted ↦ sorted.Perm xs ∧ Uniform kind sorted

theorem Sorts.perm {step : Except ε (List α)} (h : Sorts before kind xs step)
    (hperm : xs.Perm ys) : Sorts before kind ys step :=
  h.mono (fun _ hfault ↦ hfault.mono hperm.subset) fun _ hsorted ↦
    ⟨hsorted.1.trans hperm, hsorted.2⟩

section Kinds

variable (hkind : AnswersWithin kind before)

include hkind

theorem gathers_mergeDeeper (depth patience : Nat) (runs : List (Pending α))
    (hruns : ∀ run ∈ runs, IsRun kind run.items) :
    Gathers before kind (contents runs) (mergeDeeper before depth patience runs) := by
  induction patience, runs using mergeDeeper.induct depth with
  | case1 patience last previous runs hlt ih =>
    obtain ⟨hlast, hrest⟩ := List.forall_mem_cons.mp hruns
    obtain ⟨hprevious, hrest⟩ := List.forall_mem_cons.mp hrest
    have hboth : (previous.items ++ last.items ++ contents runs).Perm
        (contents (last :: previous :: runs)) := by
      rw [contents_cons, contents_cons, List.append_assoc]
      exact List.perm_append_comm_assoc _ _ _
    rw [mergeDeeper, if_pos hlt]
    refine Gives.merge hkind hprevious hlast hboth fun run patience hrun hperm ↦ ?_
    have hnext := ih run patience (List.forall_mem_cons.mpr ⟨hrun, hrest⟩)
    rw [contents_cons] at hnext
    exact hnext.perm hperm
  | case2 patience last previous runs hge =>
    rw [mergeDeeper, if_neg hge]
    obtain ⟨hlast, hrest⟩ := List.forall_mem_cons.mp hruns
    exact ⟨List.Perm.refl _, List.forall_mem_cons.mpr ⟨hlast, hrest⟩⟩
  | case3 patience last =>
    rw [mergeDeeper]
    exact ⟨List.Perm.refl _, List.forall_mem_singleton.mpr (hruns last List.mem_cons_self)⟩
  | case4 patience =>
    rw [mergeDeeper]
    exact ⟨List.Perm.refl _, hruns⟩

theorem gathers_pushRun (size patience : Nat) {runs : List (Pending α)}
    (hruns : ∀ run ∈ runs, IsRun kind run.items) (hrun : IsRun kind run) :
    Gathers before kind (contents runs ++ run) (pushRun before size patience runs run) := by
  cases runs with
  | nil => exact ⟨List.Perm.of_eq (List.append_nil run), List.forall_mem_singleton.mpr hrun⟩
  | cons last runs =>
    have hdeeper := gathers_mergeDeeper hkind
      (borderDepth size last.start last.items.length run.length) patience (last :: runs) hruns
    rw [pushRun]
    refine (hdeeper.among (List.subset_append_left _ _)).bind
      fun gathered ⟨hperm, hgathered⟩ ↦ ⟨?_, List.forall_mem_cons.mpr ⟨hrun, hgathered⟩⟩
    exact List.perm_append_comm.trans (hperm.append_right run)

/-- The step and the run: what was cut off before and what is still to be cut stay together. -/
theorem gathers_gatherRuns (size patience : Nat) (runs : List (Pending α)) (xs : List α)
    (hruns : ∀ run ∈ runs, IsRun kind run.items) :
    Gathers before kind (contents runs ++ xs) (gatherRuns before size patience runs xs) := by
  induction patience, runs, xs using gatherRuns.induct with
  | case1 patience runs =>
    rw [gatherRuns]
    exact ⟨List.Perm.of_eq (List.append_nil _).symm, hruns⟩
  | case2 patience runs x xs ih =>
    rw [gatherRuns]
    have hfirst := gives_firstRun hkind (leastRun size) x xs
    refine (hfirst.among (List.subset_append_right _ _)).bind fun run ⟨hfront, hrun⟩ ↦ ?_
    have hdrop : (x :: xs).drop run.length = xs.drop (run.length - 1) := by
      obtain ⟨y, ys, rfl⟩ := List.exists_cons_of_ne_nil hrun.nonempty
      rfl
    have hall : (contents runs ++ run ++ xs.drop (run.length - 1)).Perm
        (contents runs ++ x :: xs) := by
      rw [List.append_assoc, ← hdrop]
      have hparts := hfront.append_right ((x :: xs).drop run.length)
      rw [List.take_append_drop] at hparts
      exact hparts.append_left _
    have hsub : contents runs ++ run ⊆ contents runs ++ x :: xs :=
      fun z hz ↦ hall.subset (List.mem_append_left _ hz)
    refine ((gathers_pushRun hkind size patience hruns hrun).among hsub).bind
      fun gathered ⟨hperm, hgathered⟩ ↦ ?_
    exact (ih run gathered.1 gathered.2 hgathered).perm ((hperm.append_right _).trans hall)

/-! ## The whole -/

theorem sorts_mergeAll (patience : Nat) (runs : List (List α))
    (hruns : ∀ run ∈ runs, IsRun kind run) :
    Sorts before kind runs.flatten (mergeAll before patience runs) := by
  induction patience, runs using mergeAll.induct with
  | case1 patience last middle first runs hlt ih =>
    obtain ⟨hlast, hrest⟩ := List.forall_mem_cons.mp hruns
    obtain ⟨hmiddle, hrest⟩ := List.forall_mem_cons.mp hrest
    obtain ⟨hfirst, hrest⟩ := List.forall_mem_cons.mp hrest
    -- the lower two of the three topmost runs become one, under the topmost
    have hall : (first ++ middle ++ (last ++ runs.flatten)).Perm
        (last :: middle :: first :: runs).flatten := by
      refine (List.perm_append_comm_assoc _ _ _).trans (List.Perm.append_left last ?_)
      rw [List.append_assoc]
      exact List.perm_append_comm_assoc _ _ _
    rw [mergeAll, if_pos hlt]
    refine Gives.merge hkind hfirst hmiddle hall fun run patience hrun hperm ↦ ?_
    have hnext := ih run patience
      (List.forall_mem_cons.mpr ⟨hlast, List.forall_mem_cons.mpr ⟨hrun, hrest⟩⟩)
    exact hnext.perm ((List.perm_append_comm_assoc _ _ _).trans hperm)
  | case2 patience last middle first runs hge ih =>
    obtain ⟨hlast, hrest⟩ := List.forall_mem_cons.mp hruns
    obtain ⟨hmiddle, hrest⟩ := List.forall_mem_cons.mp hrest
    have hall : (middle ++ last ++ (first :: runs).flatten).Perm
        (last :: middle :: first :: runs).flatten := by
      rw [List.append_assoc]
      exact List.perm_append_comm_assoc _ _ _
    rw [mergeAll, if_neg hge]
    refine Gives.merge hkind hmiddle hlast hall fun run patience hrun hperm ↦ ?_
    have hnext := ih run patience (List.forall_mem_cons.mpr ⟨hrun, hrest⟩)
    exact hnext.perm hperm
  | case3 patience last first =>
    obtain ⟨hlast, hrest⟩ := List.forall_mem_cons.mp hruns
    have hfirst := hrest first List.mem_cons_self
    have hall : (first ++ last ++ []).Perm [last, first].flatten := by
      rw [List.append_assoc]
      exact List.perm_append_comm_assoc _ _ _
    rw [mergeAll]
    refine Gives.merge hkind hfirst hlast hall fun run patience hrun hperm ↦ ⟨?_, hrun.uniform⟩
    rw [List.append_nil] at hperm
    exact hperm
  | case4 patience run =>
    rw [mergeAll]
    have hrun := hruns run List.mem_cons_self
    exact ⟨List.Perm.of_eq (List.flatten_singleton).symm, hrun.uniform⟩
  | case5 patience =>
    rw [mergeAll]
    exact ⟨List.Perm.refl _, fun x hx ↦ absurd hx List.not_mem_nil⟩

/-- **Sorting.** What a sort gives is the list in another order, and then all elements are of one
kind; where it fails, two elements cannot be compared. -/
theorem sorts_sort (xs : List α) : Sorts before kind xs (sort before xs) := by
  have hgather := gathers_gatherRuns hkind xs.length worthwhile [] xs
    (fun run hrun ↦ absurd hrun List.not_mem_nil)
  refine Gives.bind hgather fun gathered ⟨hperm, hruns⟩ ↦ ?_
  have hall := sorts_mergeAll hkind gathered.2 (gathered.1.map Pending.items)
    (List.forall_mem_map.mpr hruns)
  rw [← List.flatMap_def] at hall
  exact hall.perm hperm

end Kinds

end AbiTypings.Sorting
