import Mathlib
import AbiTypings.Contract.Reading
import AbiTypings.Proofs.Contract.Classification

/-!
# Reading sorts the entries of a description

Reading keeps five lists at once: four kinds of members and the notes on what is skipped. Every
entry adds to exactly one of them, and what it adds does not depend on the others, so the five lists
are those of the five groups of entries, each in the order of the description (`IsPartition`).

For the same reason reading respects concatenation: the contract of two descriptions in a row has
the members of the first and then those of the second. Where an entry cannot be read, what follows
it is never looked at, and the notes on what came before remain.

The run lemmas speak about declarations, which is where the order still is; the lists of a contract
are selections from them.
-/

namespace AbiTypings

/-! ## Reading one entry after the other -/

namespace Declaration

variable {filePath : Text} {entry : Json} {entries before after : List Json}
  {d : Declaration} {ds ds' : List Declaration} {fault : Fault}

theorem readAll_cons_of_ok (h : read filePath entry = .ok d) (entries : List Json) :
    readAll filePath (entry :: entries)
      = (d :: (readAll filePath entries).1, (readAll filePath entries).2) := by
  rw [readAll, h]

theorem readAll_cons_of_error (h : read filePath entry = .error fault) (entries : List Json) :
    readAll filePath (entry :: entries) = ([], some fault) := by
  rw [readAll, h]

theorem readAll_cons_eq_none (h : readAll filePath (entry :: entries) = (ds, none)) :
    ∃ d rest, read filePath entry = .ok d ∧ readAll filePath entries = (rest, none) ∧
      ds = d :: rest := by
  cases hread : read filePath entry with
  | error fault =>
    rw [readAll_cons_of_error hread] at h
    cases h
  | ok d =>
    rw [readAll_cons_of_ok hread, Prod.mk.injEq] at h
    exact ⟨d, _, rfl, Prod.ext rfl h.2, h.1.symm⟩

theorem readAll_append_of_none {fault? : Option Fault}
    (h : readAll filePath before = (ds, none)) (h' : readAll filePath after = (ds', fault?)) :
    readAll filePath (before ++ after) = (ds ++ ds', fault?) := by
  induction before generalizing ds with
  | nil =>
    obtain rfl : [] = ds := congrArg Prod.fst h
    exact h'
  | cons entry before ih =>
    obtain ⟨d, rest, hread, hrest, rfl⟩ := readAll_cons_eq_none h
    rw [List.cons_append, readAll_cons_of_ok hread, ih hrest, List.cons_append]

theorem readAll_append_of_some (h : readAll filePath before = (ds, some fault))
    (after : List Json) : readAll filePath (before ++ after) = (ds, some fault) := by
  induction before generalizing ds with
  | nil => cases h
  | cons entry before ih =>
    rw [List.cons_append]
    cases hread : read filePath entry with
    | error fault' =>
      rw [readAll_cons_of_error hread] at h ⊢
      exact h
    | ok d =>
      rw [readAll_cons_of_ok hread] at h ⊢
      obtain ⟨rfl, hfault⟩ := Prod.mk.inj h
      rw [ih (Prod.ext rfl hfault)]

/-! ## Groups -/

/-- Selecting declarations comes to the same as selecting entries before they are read, if the two
selections agree on every entry. -/
theorem mapM_filter_of_read {β : Type} {keep : Json → Bool} {select : Declaration → Option β}
    {readOne : Json → Except Fault β}
    (hselect : ∀ entry d, read filePath entry = .ok d →
      (keep entry = true ∧ ∃ b, select d = some b ∧ readOne entry = .ok b) ∨
        (keep entry = false ∧ select d = none))
    (h : readAll filePath entries = (ds, none)) :
    (entries.filter keep).mapM readOne = .ok (ds.filterMap select) := by
  induction entries generalizing ds with
  | nil =>
    obtain rfl : [] = ds := congrArg Prod.fst h
    rfl
  | cons entry entries ih =>
    obtain ⟨d, rest, hread, hrest, rfl⟩ := readAll_cons_eq_none h
    -- An entry that is not kept drops out on both sides.
    rcases hselect entry d hread with ⟨hkeep, b, hb, hone⟩ | ⟨hkeep, hnone⟩
    · rw [List.filter_cons_of_pos hkeep, List.filterMap_cons_some hb]
      exact mapM_cons_eq_ok_iff.mpr ⟨b, _, hone, ih hrest, rfl⟩
    · rw [List.filter_cons_of_neg (by simpa using hkeep), List.filterMap_cons_none hnone]
      exact ih hrest

theorem mapM_filter_of_readAll {β : Type} {group : EntryGroup} {select : Declaration → Option β}
    {readOne : Json → Except Fault β}
    (hselect : ∀ entry d, Declares filePath entry d →
      (entryGroup entry = group ∧ ∃ b, select d = some b ∧ readOne entry = .ok b) ∨
        (entryGroup entry ≠ group ∧ select d = none))
    (h : readAll filePath entries = (ds, none)) :
    (entries.filter fun entry ↦ entryGroup entry = group).mapM readOne
      = .ok (ds.filterMap select) := by
  refine mapM_filter_of_read (fun entry d hread ↦ ?_) h
  rcases hselect entry d (declares_of_read hread) with ⟨hgroup, hselected⟩ | ⟨hgroup, hnone⟩
  · exact Or.inl ⟨decide_eq_true hgroup, hselected⟩
  · exact Or.inr ⟨decide_eq_false hgroup, hnone⟩

/-- Every declaration comes from an entry, also where a later entry cannot be read. -/
theorem exists_declares_of_mem_readAll (filePath : Text) (entries : List Json) :
    ∀ d ∈ (readAll filePath entries).1, ∃ entry ∈ entries, Declares filePath entry d := by
  induction entries with
  | nil => exact fun d hd ↦ absurd hd List.not_mem_nil
  | cons entry entries ih =>
    cases hread : read filePath entry with
    | error fault =>
      rw [readAll_cons_of_error hread]
      exact fun d hd ↦ absurd hd List.not_mem_nil
    | ok d =>
      rw [readAll_cons_of_ok hread]
      refine List.forall_mem_cons.mpr ⟨⟨entry, List.mem_cons_self, declares_of_read hread⟩, ?_⟩
      intro d' hd'
      obtain ⟨entry', hentry', hdeclares⟩ := ih d' hd'
      exact ⟨entry', List.mem_cons_of_mem entry hentry', hdeclares⟩

theorem length_of_readAll (h : readAll filePath entries = (ds, none)) :
    ds.length = entries.length := by
  induction entries generalizing ds with
  | nil =>
    obtain rfl : [] = ds := congrArg Prod.fst h
    rfl
  | cons entry entries ih =>
    obtain ⟨d, rest, hread, hrest, rfl⟩ := readAll_cons_eq_none h
    rw [List.length_cons, List.length_cons, ih hrest]

theorem length_eq_add (ds : List Declaration) :
    ds.length = (ds.filterMap function?).length + (ds.filterMap constantFunction?).length +
      (ds.filterMap accessor?).length + (ds.filterMap event?).length +
      (ds.filterMap note?).length := by
  induction ds with
  | nil => rfl
  | cons d ds ih =>
    cases d <;> simp only [List.filterMap_cons, function?, constantFunction?, accessor?, event?,
      note?, List.length_cons, ih] <;> omega

end Declaration

/-! ## Partitions -/

/-- A contract and notes are what the five groups of entries give, each in its order. -/
structure IsPartition (filePath : Text) (entries : List Json) (c : Contract)
    (notes : List Diagnostic) : Prop where
  /-- The functions that may change the state. -/
  functions : (entries.filter fun entry ↦ entryGroup entry = .function).mapM Function.read
    = .ok c.functions
  /-- The functions that only read the state, accessors apart. -/
  constantFunctions : (entries.filter fun entry ↦ entryGroup entry = .constantFunction).mapM
    Method.read = .ok c.constantFunctions
  /-- The accessors. -/
  accessors : (entries.filter fun entry ↦ entryGroup entry = .accessor).mapM Accessor.read
    = .ok c.accessors
  /-- The events. -/
  events : (entries.filter fun entry ↦ entryGroup entry = .event).mapM Event.read
    = .ok c.events
  /-- The notes on what is skipped. -/
  skipped : notes = (entries.filter fun entry ↦ entryGroup entry = .skipped).map
    (skippedNote filePath)
  /-- Every entry adds to one of the lists. -/
  length : entries.length = c.functions.length + c.constantFunctions.length +
    c.accessors.length + c.events.length + notes.length
  /-- No constant function could have been an accessor. -/
  several : ∀ m ∈ c.constantFunctions, ¬(m.inputs = [] ∧ m.outputs.length = 1)

theorem isPartition_ofDeclarations {filePath : Text} {entries : List Json}
    {ds : List Declaration} (h : Declaration.readAll filePath entries = (ds, none))
    (name : Json) :
    IsPartition filePath entries (Contract.ofDeclarations name ds)
      (ds.filterMap Declaration.note?) := by
  refine ⟨?_, ?_, ?_, ?_, ?_, ?_, ?_⟩
  · refine Declaration.mapM_filter_of_readAll (fun entry d hd ↦ ?_) h
    cases hd with
    | function group read => exact Or.inl ⟨group, _, rfl, read⟩
    | constantFunction group | accessor group | event group | skipped group =>
      exact Or.inr ⟨by rw [group]; decide, rfl⟩
  · refine Declaration.mapM_filter_of_readAll (fun entry d hd ↦ ?_) h
    cases hd with
    | constantFunction group read => exact Or.inl ⟨group, _, rfl, read⟩
    | function group | accessor group | event group | skipped group =>
      exact Or.inr ⟨by rw [group]; decide, rfl⟩
  · refine Declaration.mapM_filter_of_readAll (fun entry d hd ↦ ?_) h
    cases hd with
    | accessor group read => exact Or.inl ⟨group, _, rfl, read⟩
    | function group | constantFunction group | event group | skipped group =>
      exact Or.inr ⟨by rw [group]; decide, rfl⟩
  · refine Declaration.mapM_filter_of_readAll (fun entry d hd ↦ ?_) h
    cases hd with
    | event group read => exact Or.inl ⟨group, _, rfl, read⟩
    | function group | constantFunction group | accessor group | skipped group =>
      exact Or.inr ⟨by rw [group]; decide, rfl⟩
  · have hnotes : (entries.filter fun entry ↦ entryGroup entry = .skipped).mapM
        (fun entry ↦ (pure (skippedNote filePath entry) : Except Fault Diagnostic))
          = .ok (ds.filterMap Declaration.note?) := by
      refine Declaration.mapM_filter_of_readAll (fun entry d hd ↦ ?_) h
      cases hd with
      | skipped group => exact Or.inl ⟨group, _, rfl, rfl⟩
      | function group | constantFunction group | accessor group | event group =>
        exact Or.inr ⟨by rw [group]; decide, rfl⟩
    rw [List.mapM_pure] at hnotes
    exact (Except.ok.inj hnotes).symm
  · rw [← Declaration.length_of_readAll h]
    exact Declaration.length_eq_add ds
  · intro m hm
    obtain ⟨d, hd, hdm⟩ := List.mem_filterMap.mp hm
    have hdeclared := Declaration.exists_declares_of_mem_readAll filePath entries d (by rwa [h])
    obtain ⟨entry, -, hentry⟩ := hdeclared
    cases hentry with
    | constantFunction group read several =>
      obtain rfl := Option.some.inj hdm
      exact several
    | function | accessor | event | skipped => cases hdm

/-! ## Concatenation -/

/-- The members of one contract followed by those of another. -/
def Contract.append (c d : Contract) : Contract where
  name := c.name
  functions := c.functions ++ d.functions
  constantFunctions := c.constantFunctions ++ d.constantFunctions
  accessors := c.accessors ++ d.accessors
  events := c.events ++ d.events

theorem ofDeclarations_append (name : Json) (ds ds' : List Declaration) :
    Contract.ofDeclarations name (ds ++ ds')
      = (Contract.ofDeclarations name ds).append (Contract.ofDeclarations name ds') := by
  simp only [Contract.ofDeclarations, Contract.append, List.filterMap_append]

section Entries

variable {name : Json} {filePath : Text} {entries : List Json}

theorem readEntries_eq_ok {c : Contract}
    (h : (Contract.readEntries name filePath entries).result = .ok c) :
    ∃ ds, Declaration.readAll filePath entries = (ds, none) ∧
      c = Contract.ofDeclarations name ds := by
  rcases hread : Declaration.readAll filePath entries with ⟨ds, fault | fault⟩
  · rw [Contract.readEntries_of_none hread] at h
    exact ⟨ds, rfl, (Except.ok.inj h).symm⟩
  · rw [Contract.readEntries_of_some hread] at h
    cases h

theorem readEntries_eq_error {fault : Fault}
    (h : (Contract.readEntries name filePath entries).result = .error fault) :
    ∃ ds, Declaration.readAll filePath entries = (ds, some fault) := by
  rcases hread : Declaration.readAll filePath entries with ⟨ds, fault' | fault'⟩
  · rw [Contract.readEntries_of_none hread] at h
    cases h
  · rw [Contract.readEntries_of_some hread] at h
    exact ⟨ds, by rw [Except.error.inj h]⟩

theorem code_of_mem_notes_readEntries (name : Json) (filePath : Text) (entries : List Json) :
    ∀ note ∈ (Contract.readEntries name filePath entries).notes,
      note.code = "I001" ∨ note.code = "W001" := by
  intro note h
  obtain ⟨d, hd, hnote⟩ := List.mem_filterMap.mp h
  obtain ⟨entry, -, hdeclares⟩ :=
    Declaration.exists_declares_of_mem_readAll filePath entries d hd
  cases hdeclares with
  | skipped group =>
    obtain rfl := Option.some.inj hnote
    exact code_skippedNote filePath entry
  | function | constantFunction | accessor | event => cases hnote

end Entries

/-- **Partition and concatenation.** The lists of an accepted description are those of its five
groups of entries. Two descriptions in a row are read as the one and then as the other: both have to
be accepted, and the fault is that of the first one that is not. -/
theorem readEntries_partition (name : Json) (filePath : Text) :
    (∀ entries c, (Contract.readEntries name filePath entries).result = .ok c →
      c.name = name ∧
        IsPartition filePath entries c (Contract.readEntries name filePath entries).notes) ∧
    ∀ before after,
      (∀ c d, (Contract.readEntries name filePath before).result = .ok c →
        (Contract.readEntries name filePath after).result = .ok d →
        Contract.readEntries name filePath (before ++ after)
          = ⟨(Contract.readEntries name filePath before).notes ++
              (Contract.readEntries name filePath after).notes, .ok (c.append d)⟩) ∧
      (∀ fault, (Contract.readEntries name filePath before).result = .error fault →
        Contract.readEntries name filePath (before ++ after)
          = ⟨(Contract.readEntries name filePath before).notes, .error fault⟩) ∧
      ∀ c fault, (Contract.readEntries name filePath before).result = .ok c →
        (Contract.readEntries name filePath after).result = .error fault →
        Contract.readEntries name filePath (before ++ after)
          = ⟨(Contract.readEntries name filePath before).notes ++
              (Contract.readEntries name filePath after).notes, .error fault⟩ := by
  refine ⟨fun entries c h ↦ ?_, fun before after ↦ ⟨fun c d h h' ↦ ?_, fun fault h ↦ ?_,
    fun c fault h h' ↦ ?_⟩⟩
  · obtain ⟨ds, hread, rfl⟩ := readEntries_eq_ok h
    rw [Contract.readEntries_of_none hread]
    exact ⟨rfl, isPartition_ofDeclarations hread name⟩
  · obtain ⟨ds, hread, rfl⟩ := readEntries_eq_ok h
    obtain ⟨ds', hread', rfl⟩ := readEntries_eq_ok h'
    rw [Contract.readEntries_of_none (Declaration.readAll_append_of_none hread hread'),
      Contract.readEntries_of_none hread, Contract.readEntries_of_none hread',
      List.filterMap_append, ofDeclarations_append]
  · obtain ⟨ds, hread⟩ := readEntries_eq_error h
    rw [Contract.readEntries_of_some (Declaration.readAll_append_of_some hread after),
      Contract.readEntries_of_some hread]
  · obtain ⟨ds, hread, rfl⟩ := readEntries_eq_ok h
    obtain ⟨ds', hread'⟩ := readEntries_eq_error h'
    rw [Contract.readEntries_of_some (Declaration.readAll_append_of_none hread hread'),
      Contract.readEntries_of_none hread, Contract.readEntries_of_some hread',
      List.filterMap_append]

/-- A description with an entry of every group. -/
private def ledgerEntries : List Json :=
  [.obj [("type", .str "fallback")],
    .obj [("name", .str "balance"), ("stateMutability", .str "view"),
      ("inputs", .arr [.obj [("name", .str "of"), ("type", .str "address")]]),
      ("outputs", .arr [.obj [("type", .str "bool")]])],
    .obj [("type", .str "event"), ("name", .str "Moved")],
    .obj [("name", .str "owner"), ("constant", .bool true),
      ("outputs", .arr [.obj [("type", .str "address")]])],
    .obj [("type", .str "function"), ("name", .str "move")]]

private def ledger : Contract where
  name := .str "Ledger"
  functions := [⟨⟨.str "move", [], []⟩, false⟩]
  constantFunctions := [⟨.str "balance", [⟨.str "of", .address⟩], [⟨.null, .bool⟩]⟩]
  accessors := [⟨.str "owner", ⟨.null, .address⟩⟩]
  events := [⟨.str "Moved", [], false⟩]

/-- The entries are sorted into a contract and a note, and an entry behind them that is none is the
fault of the whole. -/
theorem readEntries_partition_ledger :
    IsPartition "ledger.json" ledgerEntries ledger
      [.ignoredEntry (.str "fallback") "ledger.json"] ∧
    Contract.readEntries (.str "Ledger") "ledger.json" (ledgerEntries ++ [.null])
      = ⟨[.ignoredEntry (.str "fallback") "ledger.json"], .error (.notEntry .null)⟩ := by
  obtain ⟨hpartition, happend⟩ := readEntries_partition (.str "Ledger") "ledger.json"
  have hread : Contract.readEntries (.str "Ledger") "ledger.json" ledgerEntries
      = ⟨[.ignoredEntry (.str "fallback") "ledger.json"], .ok ledger⟩ := by
    -- All of Mathlib is imported for the equations by which `cbv` unfolds library functions.
    cbv
  have hsorted := (hpartition ledgerEntries ledger (by rw [hread])).2
  rw [hread] at hsorted
  obtain ⟨-, -, hfails⟩ := happend ledgerEntries [.null]
  have hfail := hfails ledger (.notEntry .null) (by rw [hread]) rfl
  rw [hread] at hfail
  exact ⟨hsorted, hfail⟩

end AbiTypings
