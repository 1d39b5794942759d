import AbiTypings.Diagnostic.Summary
import AbiTypings.Proofs.Fault.Containment
import AbiTypings.Proofs.Sorting.Runs

/-!
# When warnings can be counted

A summary counts warnings by construct and puts the constructs in order. A construct is whatever
value a description gave as the kind of an entry, so both steps can fail: sequences and objects
cannot be counted under, and texts have no order beside numbers. `Countable` is the condition under
which neither step does, and it is exact, since a sort does not succeed without having compared
values of every kind that occurs (`Sorting.sorts_sort`).

The condition looks at all warnings of a run at once. Each of them may be harmless by itself.
-/

namespace AbiTypings

/-! ## Orders -/

/-- The order a value belongs to. -/
inductive OrderClass where
  /-- Texts, by their characters. -/
  | text
  /-- Numbers and truth values, by size. -/
  | number
  /-- No order. -/
  | none
deriving DecidableEq, Repr

namespace Json

variable {v w : Json}

def orderClass : Json → OrderClass
  | str _ => .text
  | bool _ => .number
  | int _ => .number
  | float _ => .number
  | null => .none
  | arr _ => .none
  | obj _ => .none

theorem exists_before_iff : (∃ answer, v.before w = .ok answer) ↔
    v.orderClass = w.orderClass ∧ v.orderClass ≠ .none := by
  cases v <;> cases w <;> simp [before, number?, orderClass]

theorem before_eq_error {fault : Fault} (h : v.before w = .error fault) :
    fault = .unordered v.kind w.kind := by
  rw [before.eq_def] at h
  split at h
  · cases h
  · split at h
    · cases h
    · exact (Except.error.inj h).symm

theorem orderClass_of_same (h : v.same w = true) : v.orderClass = w.orderClass := by
  cases v <;> cases w <;> first | rfl | simp [same, number?] at h

end Json

/-- Whether values can be counted beside each other: all are texts, or all are numbers. -/
def Countable (constructs : List Json) : Prop :=
  (∀ v ∈ constructs, v.orderClass = .text) ∨ ∀ v ∈ constructs, v.orderClass = .number

instance (constructs : List Json) : Decidable (Countable constructs) :=
  inferInstanceAs (Decidable (_ ∨ _))

theorem countable_iff {constructs : List Json} : Countable constructs ↔
    Sorting.Uniform Json.orderClass constructs ∧ ∀ v ∈ constructs, v.orderClass ≠ .none := by
  constructor
  · rintro (h | h)
    · exact ⟨fun v hv w hw ↦ (h v hv).trans (h w hw).symm, fun v hv ↦ by rw [h v hv]; decide⟩
    · exact ⟨fun v hv w hw ↦ (h v hv).trans (h w hw).symm, fun v hv ↦ by rw [h v hv]; decide⟩
  · rintro ⟨huniform, hordered⟩
    cases constructs with
    | nil => exact Or.inl nofun
    | cons v rest =>
      have hall : ∀ w ∈ v :: rest, w.orderClass = v.orderClass :=
        fun w hw ↦ huniform w hw v List.mem_cons_self
      cases hv : v.orderClass with
      | text => exact Or.inl fun w hw ↦ (hall w hw).trans hv
      | number => exact Or.inr fun w hw ↦ (hall w hw).trans hv
      | none => exact absurd hv (hordered v List.mem_cons_self)

/-! ## Groups -/

section Groups

variable {groups : List Group} {ds : List Diagnostic} {fault : Fault}

/-- What a note is counted under says something, so it is not null. -/
theorem groupable_group (d : Diagnostic) :
    d.group.groupable = true ↔ d.group.orderClass ≠ .none := by
  have hgroup : d.group ≠ .null := by
    rw [Diagnostic.group, Json.orElse]
    split
    · next htruthy =>
      intro hnull
      rw [hnull] at htruthy
      cases htruthy
    · nofun
  cases h : d.group <;> simp_all [Json.groupable, Json.orderClass]

theorem forall_addToGroups (p : OrderClass → Prop) (d : Diagnostic) (groups : List Group) :
    (∀ g ∈ addToGroups d groups, p g.1.orderClass) ↔
      p d.group.orderClass ∧ ∀ g ∈ groups, p g.1.orderClass := by
  induction groups with
  | nil => simp [addToGroups]
  | cons g rest ih =>
    obtain ⟨key, notes⟩ := g
    rw [addToGroups]
    split
    -- a note that joins a group has the same construct up to equality, so the same order
    · next hsame =>
      rw [← Json.orderClass_of_same hsame, List.forall_mem_cons, List.forall_mem_cons]
      exact ⟨fun h ↦ ⟨h.1, h⟩, fun h ↦ h.2⟩
    · rw [List.forall_mem_cons, List.forall_mem_cons, ih]
      exact and_left_comm

/-- Counting one note. -/
def countNote (groups : List Group) (d : Diagnostic) : Except Fault (List Group) :=
  if d.group.groupable then .ok (addToGroups d groups) else .error (.ungroupable d.group.kind)

/-- The step and the run: notes are counted unless one of them has no order, and groups keep the
orders of the notes. -/
theorem gives_foldlM_countNote (ds : List Diagnostic) (groups : List Group) :
    Sorting.Gives
      (fun fault ↦ fault.kind = .type ∧ ∃ d ∈ ds, d.group.orderClass = .none)
      (fun counted ↦ (∀ d ∈ ds, d.group.orderClass ≠ .none) ∧
        ∀ p : OrderClass → Prop, (∀ g ∈ counted, p g.1.orderClass) ↔
          (∀ g ∈ groups, p g.1.orderClass) ∧ ∀ d ∈ ds, p d.group.orderClass)
      (ds.foldlM countNote groups) := by
  induction ds generalizing groups with
  | nil => exact ⟨nofun, fun p ↦ ⟨fun h ↦ ⟨h, nofun⟩, fun h ↦ h.1⟩⟩
  | cons d ds ih =>
    rw [List.foldlM_cons, countNote]
    split
    · next hgroupable =>
      have hd := (groupable_group d).mp hgroupable
      refine (ih (addToGroups d groups)).mono (fun fault ⟨hkind, d', hd', hnone⟩ ↦ ?_)
        fun counted ⟨hds, hcounted⟩ ↦ ⟨List.forall_mem_cons.mpr ⟨hd, hds⟩, fun p ↦ ?_⟩
      · exact ⟨hkind, d', List.mem_cons_of_mem d hd', hnone⟩
      · rw [hcounted p, forall_addToGroups, List.forall_mem_cons, and_assoc, and_left_comm]
    · next hgroupable =>
      have hnone := Decidable.not_not.mp (mt (groupable_group d).mpr hgroupable)
      exact ⟨rfl, d, List.mem_cons_self, hnone⟩

/-! ## Sorting groups -/

theorem isNamed_eq_true_iff (g : Group) : isNamed g = true ↔ g.1.orderClass = .text := by
  obtain ⟨key, notes⟩ := g
  cases key <;> simp [isNamed, Json.orderClass]

theorem not_countable_of_incomparable {groups : List Group} {fault : Fault}
    (h : Sorting.Incomparable (fun g h : Group ↦ g.1.before h.1) groups fault) :
    fault.kind = .type ∧ ¬Countable (groups.map Prod.fst) := by
  obtain ⟨g, hg, h, hh, hfault⟩ := h
  have hfault : g.1.before h.1 = .error fault := hfault
  refine ⟨by rw [Json.before_eq_error hfault]; rfl, fun hcountable ↦ ?_⟩
  obtain ⟨huniform, hordered⟩ := countable_iff.mp hcountable
  have hg := List.mem_map_of_mem (f := Prod.fst) hg
  have hh := List.mem_map_of_mem (f := Prod.fst) hh
  obtain ⟨answer, hanswer⟩ := Json.exists_before_iff.mpr ⟨huniform _ hg _ hh, hordered _ hg⟩
  rw [hanswer] at hfault
  cases hfault

theorem gives_sortGroups {groups : List Group}
    (hordered : ∀ v ∈ groups.map Prod.fst, v.orderClass ≠ .none) :
    Sorting.Gives (fun fault ↦ fault.kind = .type ∧ ¬Countable (groups.map Prod.fst))
      (fun _ ↦ Countable (groups.map Prod.fst)) (sortGroups groups) := by
  rw [sortGroups]
  split
  -- names are texts, so no comparison can fail
  · next hnamed =>
    exact Or.inl <| List.forall_mem_map.mpr fun g hg ↦
      (isNamed_eq_true_iff g).mp (List.all_eq_true.mp hnamed g hg)
  · have hwithin : Sorting.AnswersWithin (fun g : Group ↦ g.1.orderClass)
        (fun g h ↦ g.1.before h.1) :=
      fun g h answer hanswer ↦ (Json.exists_before_iff.mp ⟨answer, hanswer⟩).1
    refine (Sorting.sorts_sort hwithin groups).mono (fun _ ↦ not_countable_of_incomparable)
      fun sorted ⟨hperm, huniform⟩ ↦ countable_iff.mpr ⟨?_, hordered⟩
    have hgroups := huniform.subset hperm.symm.subset
    exact List.forall_mem_map.mpr fun g hg ↦ List.forall_mem_map.mpr fun h hh ↦ hgroups g hg h hh

def sortedGroups (ds : List Diagnostic) : Except Fault (List Group) := groupNotes ds >>= sortGroups

/-- **Counting.** Notes are counted and put in order if their constructs are of one order, and only
then; otherwise the fault is that a value is of the wrong kind. -/
theorem gives_sortedGroups (ds : List Diagnostic) :
    Sorting.Gives (fun fault ↦ fault.kind = .type ∧ ¬Countable (ds.map Diagnostic.group))
      (fun _ ↦ Countable (ds.map Diagnostic.group)) (sortedGroups ds) := by
  refine Sorting.Gives.bind ((gives_foldlM_countNote ds []).mono ?_ fun _ ↦ id) ?_
  · rintro fault ⟨hkind, d, hd, hnone⟩
    refine ⟨hkind, fun hcountable ↦ ?_⟩
    exact (countable_iff.mp hcountable).2 _ (List.mem_map_of_mem hd) hnone
  · rintro groups ⟨hordered, hgroups⟩
    have hclass (c : OrderClass) : (∀ v ∈ ds.map Diagnostic.group, v.orderClass = c) ↔
        ∀ v ∈ groups.map Prod.fst, v.orderClass = c := by
      rw [List.forall_mem_map, List.forall_mem_map, hgroups (· = c)]
      exact ⟨fun h ↦ ⟨nofun, h⟩, fun h ↦ h.2⟩
    rw [Countable, hclass, hclass]
    exact gives_sortGroups (List.forall_mem_map.mpr ((hgroups (· ≠ .none)).mpr ⟨nofun, hordered⟩))

end Groups

/-! ## Reports -/

section Reports

variable {verbose : Bool} {ds : List Diagnostic} {fault : Fault}

/-- The constructs under which the warnings among notes are counted. -/
def countedConstructs (ds : List Diagnostic) : List Json :=
  (ds.filter Diagnostic.isWarning).map Diagnostic.group

theorem countedConstructs_append (ds ds' : List Diagnostic) :
    countedConstructs (ds ++ ds') = countedConstructs ds ++ countedConstructs ds' := by
  rw [countedConstructs, List.filter_append, List.map_append, countedConstructs, countedConstructs]

theorem countable_of_isEmpty (h : (ds.filter Diagnostic.isWarning).isEmpty = true) :
    Countable (countedConstructs ds) := by
  rw [countedConstructs, List.isEmpty_iff.mp h]
  exact Or.inl nofun

theorem report_cases (verbose : Bool) (ds : List Diagnostic) :
    ((report verbose ds).fault? = none ∧ Countable (countedConstructs ds)) ∨
      ∃ fault, (report verbose ds).fault? = some fault ∧ fault.kind = .type ∧
        ¬Countable (countedConstructs ds) := by
  have hcounting := gives_sortedGroups (ds.filter Diagnostic.isWarning)
  rw [report.eq_def]
  dsimp only
  split
  · next hempty => exact Or.inl ⟨rfl, countable_of_isEmpty hempty⟩
  · rw [← sortedGroups]
    cases hgroups : sortedGroups (ds.filter Diagnostic.isWarning) with
    | ok groups => exact Or.inl ⟨rfl, hcounting.of_ok hgroups⟩
    | error fault => exact Or.inr ⟨fault, rfl, hcounting.of_error hgroups⟩

theorem fault?_report_eq_none_iff :
    (report verbose ds).fault? = none ↔ Countable (countedConstructs ds) := by
  rcases report_cases verbose ds with ⟨hnone, hcountable⟩ | ⟨fault, hsome, -, hcountable⟩
  · exact iff_of_true hnone hcountable
  · exact iff_of_false (by rw [hsome]; nofun) hcountable

theorem gives_summaryLine (ds : List Diagnostic) :
    Sorting.Gives (fun fault ↦ fault.kind = .type ∧ ¬Countable (countedConstructs ds))
      (fun _ ↦ Countable (countedConstructs ds)) (summaryLine ds) := by
  rw [summaryLine]
  split
  · next hempty => exact countable_of_isEmpty hempty
  · rw [← bind_assoc]
    exact (gives_sortedGroups (ds.filter Diagnostic.isWarning)).bind fun _ h ↦ h

theorem exists_summaryLine_iff :
    (∃ line, summaryLine ds = .ok line) ↔ Countable (countedConstructs ds) := by
  constructor
  · rintro ⟨line, h⟩
    exact (gives_summaryLine ds).of_ok h
  · intro hcountable
    cases h : summaryLine ds with
    | ok line => exact ⟨line, rfl⟩
    | error fault => exact absurd hcountable ((gives_summaryLine ds).of_error h).2

end Reports

end AbiTypings
