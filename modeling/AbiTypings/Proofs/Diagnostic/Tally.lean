import Mathlib.Algebra.Ring.Nat
import Mathlib.Data.List.Basic
import Mathlib.Data.List.Induction
import AbiTypings.Association
import AbiTypings.Proofs.Diagnostic.Summary

/-!
# What the summaries say

There are two summaries of the same notes, a line and a report, and both count warnings by
construct. Where constructs are texts, what they count is one *tally*: the names that occur, in
strictly increasing order, each with the number of warnings under it. `IsTally` says so without
counting anything step by step, and there is only one tally of the same notes (`IsTally.unique`).
It does not depend on the order of the notes, so neither do the texts made from it. In a full report
the warnings stand under their names, and there they keep their order.

## Groups as an association

Notes are put into groups one after the other. Under names, the groups are an association
(`byName`), and what it holds under a name are the notes with this name, whatever came in between
(`lookup_byName`). Sorting only moves the names.
-/

namespace AbiTypings

/-! ## Names -/

/-- The name under which a note is counted: its construct, or `other` if that is empty. -/
def Diagnostic.countedName (d : Diagnostic) : Text :=
  match d.construct with
  | .str s => if s = ↑"" then "other" else s
  | v => v.display

/-- The constructs of notes are texts. -/
def HaveTextConstructs (ds : List Diagnostic) : Prop := ∀ d ∈ ds, ∃ s, d.construct = .str s

def warningsOf (ds : List Diagnostic) : List Diagnostic := ds.filter Diagnostic.isWarning

def infosOf (ds : List Diagnostic) : List Diagnostic := ds.filter fun d ↦ !d.isWarning

def notesUnder (name : Text) (ds : List Diagnostic) : List Diagnostic :=
  ds.filter fun d ↦ d.countedName == name

theorem notesUnder_concat (name : Text) (ds : List Diagnostic) (d : Diagnostic) :
    notesUnder name (ds ++ [d])
      = if name = d.countedName then notesUnder name ds ++ [d] else notesUnder name ds := by
  rw [notesUnder, List.filter_append, ← notesUnder]
  split
  · next h => rw [List.filter_cons_of_pos (by simp [h]), List.filter_nil]
  · next h =>
    rw [List.filter_cons_of_neg (by simpa using Ne.symm h), List.filter_nil, List.append_nil]

theorem Diagnostic.group_eq {d : Diagnostic} (h : ∃ s, d.construct = .str s) :
    d.group = .str d.countedName := by
  obtain ⟨s, hs⟩ := h
  rw [group, countedName, hs, Json.orElse]
  by_cases hempty : s = ""
  · simp [hempty, Json.truthy, Text.isEmpty_iff]
  · have hisEmpty : s.isEmpty = false := by rwa [← Bool.not_eq_true, Text.isEmpty_iff]
    simp [hempty, Json.truthy, hisEmpty]

/-! ## Groups -/

def namedGroup (g : Text × List Diagnostic) : Group := (.str g.1, g.2)

/-- Notes by name, in the order of the first ones. -/
def byName (ds : List Diagnostic) : List (Text × List Diagnostic) :=
  ds.foldl (fun named d ↦
    Association.put named d.countedName ((named.lookup d.countedName).getD [] ++ [d])) []

theorem byName_concat (ds : List Diagnostic) (d : Diagnostic) :
    byName (ds ++ [d]) = Association.put (byName ds) d.countedName
      (((byName ds).lookup d.countedName).getD [] ++ [d]) := by
  rw [byName, List.foldl_append]
  rfl

theorem nodup_byName (ds : List Diagnostic) : ((byName ds).map Prod.fst).Nodup := by
  induction ds using List.reverseRecOn with
  | nil => exact List.nodup_nil
  | append_singleton ds d ih =>
    rw [byName_concat]
    exact Association.nodup_keys_put ih

theorem lookup_byName (ds : List Diagnostic) (name : Text) :
    ((byName ds).lookup name).getD [] = notesUnder name ds := by
  induction ds using List.reverseRecOn with
  | nil => rfl
  | append_singleton ds d ih =>
    rw [byName_concat, notesUnder_concat]
    by_cases hname : name = d.countedName
    · rw [if_pos hname, ← hname, Association.lookup_put_self, ih, Option.getD_some]
    · rw [if_neg hname, Association.lookup_put_of_ne _ hname, ih]

theorem ne_nil_of_lookup_byName {ds notes : List Diagnostic} {name : Text}
    (h : (byName ds).lookup name = some notes) : notes ≠ [] := by
  induction ds using List.reverseRecOn generalizing notes with
  | nil => cases h
  | append_singleton ds d ih =>
    rw [byName_concat] at h
    by_cases hname : name = d.countedName
    · rw [← hname, Association.lookup_put_self] at h
      rw [← Option.some.inj h]
      exact List.append_ne_nil_of_right_ne_nil _ (List.cons_ne_nil d [])
    · rw [Association.lookup_put_of_ne _ hname] at h
      exact ih h

theorem mem_byName_iff {ds notes : List Diagnostic} {name : Text} :
    (name, notes) ∈ byName ds ↔ notes ≠ [] ∧ notes = notesUnder name ds := by
  constructor
  · intro hmem
    have hlookup := Association.lookup_of_mem (nodup_byName ds) hmem
    refine ⟨ne_nil_of_lookup_byName hlookup, ?_⟩
    rw [← lookup_byName, hlookup, Option.getD_some]
  · rintro ⟨hne, rfl⟩
    refine Association.mem_of_lookup ?_
    cases hlookup : (byName ds).lookup name with
    | some notes => rw [← lookup_byName, hlookup, Option.getD_some]
    | none =>
      rw [← lookup_byName, hlookup] at hne
      exact absurd rfl hne

theorem addToGroups_namedGroup {d : Diagnostic} (h : d.group = .str d.countedName)
    (named : List (Text × List Diagnostic)) :
    addToGroups d (named.map namedGroup)
      = (Association.put named d.countedName
          ((named.lookup d.countedName).getD [] ++ [d])).map namedGroup := by
  induction named with
  | nil => simp [addToGroups, Association.put, namedGroup, h]
  | cons g rest ih =>
    obtain ⟨name, notes⟩ := g
    have hsame : (Json.str name).same d.group = (name == d.countedName) := by
      rw [h, Json.same]
    rw [List.map_cons, namedGroup, addToGroups, hsame, Association.put]
    split
    · next heq =>
      obtain rfl : name = d.countedName := eq_of_beq heq
      rw [List.lookup_cons_self]
      rfl
    · next hne =>
      have hne : d.countedName ≠ name := fun heq ↦ hne (by rw [heq]; exact beq_self_eq_true name)
      rw [Association.lookup_cons_of_ne hne, ih, List.map_cons, namedGroup]

/-- **Grouping.** Notes with texts as constructs are grouped by name. -/
theorem groupNotes_eq {ds : List Diagnostic} (h : HaveTextConstructs ds) :
    groupNotes ds = .ok ((byName ds).map namedGroup) := by
  induction ds using List.reverseRecOn with
  | nil => rfl
  | append_singleton ds d ih =>
    have hds := ih fun d' hd' ↦ h d' (List.mem_append_left _ hd')
    have hd := Diagnostic.group_eq (h d (List.mem_append_right _ List.mem_cons_self))
    have hgroupable : d.group.groupable = true := by
      rw [hd]
      rfl
    rw [groupNotes, List.foldlM_append, ← groupNotes, hds, byName_concat,
      ← addToGroups_namedGroup hd]
    change (if d.group.groupable = true then Except.ok (addToGroups d _) else _) >>= pure = _
    rw [if_pos hgroupable]
    rfl

/-! ## Order -/

/-- Whether a name may stand in front of another one. -/
def nameNotBehind (g h : Text × List Diagnostic) : Bool := !decide (h.1 < g.1)

/-- The groups in the order of their names. -/
def sortedByName (ds : List Diagnostic) : List (Text × List Diagnostic) :=
  (byName ds).mergeSort nameNotBehind

theorem sortGroups_namedGroup (named : List (Text × List Diagnostic)) :
    sortGroups (named.map namedGroup)
      = .ok ((named.mergeSort nameNotBehind).map namedGroup) := by
  have hnamed : (named.map namedGroup).all isNamed = true := by
    simp [isNamed, namedGroup]
  rw [sortGroups, if_pos hnamed, List.map_mergeSort]
  intro g _ h _
  rfl

theorem sortedByName_perm (ds : List Diagnostic) : (sortedByName ds).Perm (byName ds) :=
  List.mergeSort_perm _ _

def namesOf (ds : List Diagnostic) : List Text := (sortedByName ds).map Prod.fst

theorem nodup_namesOf (ds : List Diagnostic) : (namesOf ds).Nodup :=
  ((sortedByName_perm ds).map Prod.fst).nodup_iff.mpr (nodup_byName ds)

theorem nameNotBehind_iff {g h : Text × List Diagnostic} :
    nameNotBehind g h = true ↔ g.1 ≤ h.1 := by
  rw [nameNotBehind, Bool.not_eq_true', decide_eq_false_iff_not, Std.not_lt]

theorem increasing_namesOf (ds : List Diagnostic) : (namesOf ds).Pairwise (· < ·) := by
  have hsorted : (sortedByName ds).Pairwise fun g h ↦ nameNotBehind g h = true := by
    refine List.pairwise_mergeSort (fun g h i ↦ ?_) (fun g h ↦ ?_) _
    · rw [nameNotBehind_iff, nameNotBehind_iff, nameNotBehind_iff]
      exact Std.le_trans
    · rw [Bool.or_eq_true, nameNotBehind_iff, nameNotBehind_iff]
      exact Std.le_total
  have hordered : (namesOf ds).Pairwise (· ≤ ·) :=
    List.pairwise_map.mpr (hsorted.imp nameNotBehind_iff.mp)
  exact (hordered.and (nodup_namesOf ds)).imp fun ⟨hle, hne⟩ ↦ Std.lt_of_le_of_ne hle hne

theorem sortedByName_eq (ds : List Diagnostic) :
    sortedByName ds = (namesOf ds).map fun name ↦ (name, notesUnder name ds) := by
  rw [namesOf, List.map_map]
  conv_lhs => rw [← List.map_id (sortedByName ds)]
  refine List.map_congr_left fun ⟨name, notes⟩ hmem ↦ ?_
  have hnotes := (mem_byName_iff.mp ((sortedByName_perm ds).mem_iff.mp hmem)).2
  rw [id_eq, hnotes]
  rfl

theorem mem_namesOf_iff {ds : List Diagnostic} {name : Text} :
    name ∈ namesOf ds ↔ notesUnder name ds ≠ [] := by
  rw [namesOf, List.mem_map]
  constructor
  · rintro ⟨⟨name, notes⟩, hmem, rfl⟩
    obtain ⟨hne, rfl⟩ := mem_byName_iff.mp ((sortedByName_perm ds).mem_iff.mp hmem)
    exact hne
  · intro hne
    exact ⟨(name, notesUnder name ds),
      (sortedByName_perm ds).mem_iff.mpr (mem_byName_iff.mpr ⟨hne, rfl⟩), rfl⟩

/-- Notes under different names, taken together, are all notes with one of the names. -/
theorem flatMap_notesUnder_perm {names : List Text} (hnodup : names.Nodup) {ds : List Diagnostic}
    (h : ∀ d ∈ ds, d.countedName ∈ names) :
    (names.flatMap fun name ↦ notesUnder name ds).Perm ds := by
  induction names generalizing ds with
  | nil =>
    rw [List.eq_nil_iff_forall_not_mem.mpr fun d hd ↦ List.not_mem_nil (h d hd)]
    rfl
  | cons name rest ih =>
    obtain ⟨hname, hrest⟩ := List.nodup_cons.mp hnodup
    have hothers : ∀ other ∈ rest, notesUnder other ds
        = notesUnder other (ds.filter fun d ↦ !(d.countedName == name)) := by
      intro other hother
      rw [notesUnder, notesUnder, List.filter_filter]
      refine List.filter_congr fun d _ ↦ ?_
      by_cases heq : d.countedName = other
      · have hne : d.countedName ≠ name := by
          rintro rfl
          exact hname (heq ▸ hother)
        simp [heq, heq ▸ hne]
      · simp [heq]
    have hnames : ∀ d ∈ ds.filter fun d ↦ !(d.countedName == name), d.countedName ∈ rest := by
      intro d hd
      obtain ⟨hd, hne⟩ := List.mem_filter.mp hd
      rcases List.mem_cons.mp (h d hd) with heq | hmem
      · simp [heq] at hne
      · exact hmem
    rw [List.flatMap_cons, List.flatMap_congr hothers]
    exact ((ih hrest hnames).append_left _).trans (List.filter_append_perm _ ds)

theorem flatMap_namesOf_perm (ds : List Diagnostic) :
    ((namesOf ds).flatMap fun name ↦ notesUnder name ds).Perm ds := by
  refine flatMap_notesUnder_perm (nodup_namesOf ds) fun d hd ↦ ?_
  exact mem_namesOf_iff.mpr (List.ne_nil_of_mem (List.mem_filter.mpr ⟨hd, beq_self_eq_true _⟩))

/-! ## Tallies -/

/-- A tally of the warnings among notes: the names that occur, in strictly increasing order, each
with the number of warnings under it. -/
structure IsTally (ds : List Diagnostic) (tally : List (Text × Nat)) : Prop where
  /-- Each name is greater than all names before it. -/
  increasing : tally.Pairwise fun g h ↦ g.1 < h.1
  /-- Names that occur are listed with their numbers, and no others. -/
  counts : ∀ name count, (name, count) ∈ tally ↔
    count ≠ 0 ∧ count = (notesUnder name (warningsOf ds)).length
  /-- Every warning is counted once. -/
  total : (tally.map Prod.snd).sum = (warningsOf ds).length

section Tally

variable {ds ds' : List Diagnostic} {tally tally' : List (Text × Nat)}

def tallyOf (ds : List Diagnostic) : List (Text × Nat) :=
  (namesOf (warningsOf ds)).map fun name ↦ (name, (notesUnder name (warningsOf ds)).length)

theorem isTally_tallyOf (ds : List Diagnostic) : IsTally ds (tallyOf ds) := by
  refine ⟨List.pairwise_map.mpr (increasing_namesOf _), ?_, ?_⟩
  · intro name count
    rw [tallyOf, List.mem_map]
    constructor
    · rintro ⟨other, hother, heq⟩
      obtain ⟨rfl, rfl⟩ := Prod.mk.inj heq
      exact ⟨mt List.length_eq_zero_iff.mp (mem_namesOf_iff.mp hother), rfl⟩
    · rintro ⟨hne, rfl⟩
      exact ⟨name, mem_namesOf_iff.mpr (mt List.length_eq_zero_iff.mpr hne), rfl⟩
  · rw [← (flatMap_namesOf_perm (warningsOf ds)).length_eq, List.length_flatMap, tallyOf,
      List.map_map]
    rfl

/-- The names of a tally are in order, so a tally is known from what it lists. -/
theorem IsTally.unique (h : IsTally ds tally) (h' : IsTally ds tally') : tally = tally' := by
  have hnodup : ∀ {tally : List (Text × Nat)}, IsTally ds tally → tally.Nodup :=
    fun h ↦ h.increasing.imp fun hlt heq ↦ Std.ne_of_lt hlt (congrArg Prod.fst heq)
  have hperm : tally.Perm tally' := by
    refine (List.perm_ext_iff_of_nodup (hnodup h) (hnodup h')).mpr fun ⟨name, count⟩ ↦ ?_
    rw [h.counts, h'.counts]
  exact hperm.eq_of_pairwise (fun _ _ _ _ hlt hgt ↦ absurd hgt (Std.not_gt_of_lt hlt)) h.increasing
    h'.increasing

theorem IsTally.of_perm (h : IsTally ds tally) (hperm : ds'.Perm ds) : IsTally ds' tally := by
  have hwarnings : (warningsOf ds').Perm (warningsOf ds) := hperm.filter _
  refine ⟨h.increasing, fun name count ↦ ?_, ?_⟩
  · rw [h.counts, notesUnder, notesUnder, (hwarnings.filter _).length_eq]
  · rw [h.total, hwarnings.length_eq]

theorem IsTally.eq_nil_iff (h : IsTally ds tally) : tally = [] ↔ warningsOf ds = [] := by
  constructor
  · rintro rfl
    exact List.length_eq_zero_iff.mp h.total.symm
  · intro hnone
    refine List.eq_nil_iff_forall_not_mem.mpr fun ⟨name, count⟩ hmem ↦ ?_
    obtain ⟨hne, hcount⟩ := (h.counts name count).mp hmem
    rw [hnone] at hcount
    exact hne hcount

end Tally

/-! ## Texts -/

def tallyLine (tally : List (Text × Nat)) : Text :=
  if tally.isEmpty then "No generator warnings."
  else "Generator warnings: " ++
    Text.intercalate ", " (tally.map fun (name, count) ↦ toString count ++ " " ++ name)

/-- The rows above a list of notes. -/
def headingRows (title : Text) (count : Nat) : List Text :=
  ["", title ++ " (" ++ toString count ++ "):"]

/-- The row of a name in a report. -/
def countRow (name : Text) (count : Nat) : Text :=
  "  " ++ name ++ ": " ++ toString count ++ " occurrence(s)"

/-- The rows of a report on a tally, with further rows under each name. -/
def tallyRows (tally : List (Text × Nat)) (under : Text → List Text) : List Text :=
  if tally.isEmpty then []
  else headingRows "Generator warnings" (tally.map Prod.snd).sum ++
    tally.flatMap fun (name, count) ↦ countRow name count :: under name

/-- The rows of the notes that are no warnings. -/
def infoRows (infos : List Diagnostic) : List Text :=
  if infos.isEmpty then []
  else headingRows "Generator info" infos.length ++ (infos.map fun d ↦ "  " ++ d.line : List Text)

section Texts

variable {ds : List Diagnostic}

theorem HaveTextConstructs.warningsOf (h : HaveTextConstructs ds) :
    HaveTextConstructs (warningsOf ds) := fun d hd ↦ h d (List.mem_of_mem_filter hd)

theorem sortedGroups_eq (h : HaveTextConstructs ds) :
    sortedGroups ds
      = .ok ((namesOf ds).map fun name ↦ namedGroup (name, notesUnder name ds)) := by
  rw [sortedGroups, groupNotes_eq h]
  change sortGroups ((byName ds).map namedGroup) = _
  rw [sortGroups_namedGroup, ← sortedByName, sortedByName_eq, List.map_map]
  rfl

theorem isEmpty_tallyOf (ds : List Diagnostic) :
    (tallyOf ds).isEmpty = (warningsOf ds).isEmpty := by
  rw [Bool.eq_iff_iff, List.isEmpty_iff, List.isEmpty_iff, (isTally_tallyOf ds).eq_nil_iff]

theorem summaryLine_eq (h : HaveTextConstructs ds) :
    summaryLine ds = .ok (tallyLine (tallyOf ds)) := by
  rw [summaryLine, tallyLine, isEmpty_tallyOf]
  change (if (warningsOf ds).isEmpty = true then _ else
    (groupNotes (warningsOf ds) >>= fun groups ↦ sortGroups groups >>= _)) = _
  split
  · rfl
  · rw [← bind_assoc, ← sortedGroups, sortedGroups_eq h.warningsOf]
    simp [tallyOf, namedGroup, Json.display, Function.comp_def]

theorem groupLines_namedGroup (verbose : Bool) (name : Text) (notes : List Diagnostic) :
    groupLines verbose (namedGroup (name, notes)) = countRow name notes.length ::
      if verbose then notes.map fun d ↦ "    " ++ d.line else [] := by
  rw [groupLines, namedGroup, Json.display, countRow]

theorem report_eq (h : HaveTextConstructs ds) (verbose : Bool) :
    report verbose ds =
      ⟨tallyRows (tallyOf ds) (fun name ↦
          if verbose then (notesUnder name (warningsOf ds)).map fun d ↦ "    " ++ d.line else []) ++
        if verbose then infoRows (infosOf ds) else [], none⟩ := by
  have hinfos : (if (verbose && !(infosOf ds).isEmpty) = true then
        headingRows "Generator info" (infosOf ds).length ++
          ((infosOf ds).map fun d ↦ "  " ++ d.line : List Text)
      else []) = if verbose then infoRows (infosOf ds) else [] := by
    cases verbose <;> simp [infoRows]
  have hgroups : groupNotes (warningsOf ds) >>= sortGroups = .ok _ := sortedGroups_eq h.warningsOf
  rw [report.eq_def, tallyRows, isEmpty_tallyOf, ← hinfos]
  dsimp only
  rw [← warningsOf, ← infosOf]
  split
  · rfl
  · rw [hgroups, (isTally_tallyOf ds).total]
    simp only [List.flatMap_map, groupLines_namedGroup, tallyOf]
    rfl

end Texts

/-- Notes of all kinds, one of them without a construct. -/
private def mixedNotes : List Diagnostic :=
  [.skippedFile "Unknown type: coin" "b.json", .unsupportedEntry (.str "") .null "a.json",
    .ignoredEntry (.str "receive") "a.json", .unsupportedEntry (.str "other") .null ""]

end AbiTypings
