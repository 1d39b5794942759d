import AbiTypings.Files.Tree
import AbiTypings.Proofs.Fault.Success

/-!
# Trees that grow

A run makes directories and writes files, and never removes anything. What is there stays there and
keeps its kind, so a path that could be followed before can be followed afterwards, to the same
place (`Grows.find`). That is what lets one speak about a path at the end of a run although it was
followed in the middle of it.

Directories are made on the way to a path, the missing one nearest to the root first.
`Built p t t'` says that `t'` came about in this way, without saying how many were missing; whatever
a single new directory preserves is preserved by an induction on it.
-/

namespace AbiTypings

namespace FileTree

variable {t t' t'' : FileTree} {p q : Path} {location : Location} {node node' : FileNode}
  {part name : String} {parts : List String} {place : Place} {content : List UInt8}

/-! ## Following a path -/

/-- A first step is made in a directory, under a name that is not too long. Only the last step may
lead to nothing. -/
theorem walk_cons_eq_ok_iff : t.walk location node (part :: parts) = .ok place ↔
    node = .directory ∧ part.utf8ByteSize ≤ nameLimit ∧
      ((∃ next, t.node? (step location part) = some next ∧
          t.walk (step location part) next parts = .ok place) ∨
        (t.node? (step location part) = none ∧ parts = [] ∧
          place = ⟨step location part, none⟩)) := by
  rw [walk.eq_def]
  dsimp only
  cases node with
  | file content => simp
  | directory =>
    by_cases hlong : nameLimit < part.utf8ByteSize
    · simp [hlong, Nat.not_le_of_lt hlong]
    · have hshort : part.utf8ByteSize ≤ nameLimit := Nat.le_of_not_lt hlong
      cases hnext : t.node? (step location part) with
      | some next => simp [hlong, hshort]
      | none => cases parts <;> simp [hlong, hshort, eq_comm]

theorem walk_nil_eq_ok_iff :
    t.walk location node [] = .ok place ↔ place = ⟨location, some node⟩ := by
  rw [walk, Except.ok.injEq, eq_comm]

theorem node?_of_walk (hstart : t.node? location = some node)
    (h : t.walk location node parts = .ok place) : place.node? = t.node? place.location := by
  induction parts generalizing location node with
  | nil =>
    obtain rfl := walk_nil_eq_ok_iff.mp h
    exact hstart.symm
  | cons part parts ih =>
    obtain ⟨-, -, ⟨next, hnext, hrest⟩ | ⟨hnone, -, rfl⟩⟩ := walk_cons_eq_ok_iff.mp h
    · exact ih hnext hrest
    · exact hnone.symm

theorem walk_concat (h : t.walk location node (parts ++ [name]) = .ok place) :
    ∃ directory, t.walk location node parts = .ok ⟨directory, some .directory⟩ ∧
      place.location = step directory name ∧ name.utf8ByteSize ≤ nameLimit := by
  induction parts generalizing location node with
  | nil =>
    obtain ⟨rfl, hshort, ⟨next, -, hrest⟩ | ⟨-, -, rfl⟩⟩ := walk_cons_eq_ok_iff.mp h
    · obtain rfl := walk_nil_eq_ok_iff.mp hrest
      exact ⟨location, rfl, rfl, hshort⟩
    · exact ⟨location, rfl, rfl, hshort⟩
  | cons part parts ih =>
    obtain ⟨rfl, hshort, ⟨next, hnext, hrest⟩ | ⟨-, hnil, -⟩⟩ := walk_cons_eq_ok_iff.mp h
    · obtain ⟨directory, hdirectory, hplace⟩ := ih hrest
      exact ⟨directory,
        walk_cons_eq_ok_iff.mpr ⟨rfl, hshort, Or.inl ⟨next, hnext, hdirectory⟩⟩, hplace⟩
    · exact absurd hnil (List.append_ne_nil_of_right_ne_nil _ (List.cons_ne_nil _ _))

/-- The place where a path starts. -/
def start (t : FileTree) (p : Path) : Location :=
  if p.anchor = .relative then t.workingDirectory else []

/-- A path can be written down: it is not too long and has no character zero. -/
def Writable (p : Path) : Prop :=
  p.text.contains '\x00' = false ∧ p.text.utf8ByteSize ≤ pathLimit

theorem find_eq_ok_iff : t.find p = .ok place ↔
    Writable p ∧ ∃ node, t.node? (t.start p) = some node ∧
      t.walk (t.start p) node p.parts = .ok place := by
  rw [find, Writable, ← start]
  by_cases hzero : p.text.contains '\x00' = true
  · simp [hzero]
  · by_cases hlong : pathLimit < p.text.utf8ByteSize
    · simp [hzero, hlong, Nat.not_le_of_lt hlong]
    · have hshort : p.text.utf8ByteSize ≤ pathLimit := Nat.le_of_not_lt hlong
      rw [if_neg hzero, if_neg hlong]
      cases hstart : t.node? (t.start p) with
      | none => simp [hstart]
      | some node => simp [hzero, hshort, hstart, mapError_eq_ok_iff]

/-- A path that cannot be followed is refused under its own name, unless it cannot even be asked
for. -/
theorem find_eq_error {fault : Fault} (h : t.find p = .error fault) :
    (fault = .nulInPath ∧ ¬Writable p) ∨ ∃ refusal, fault = .file refusal p.text := by
  rw [find] at h
  split at h
  · next hzero =>
    exact Or.inl ⟨(Except.error.inj h).symm, fun hwritable ↦
      Bool.false_ne_true (hwritable.1.symm.trans hzero)⟩
  · split at h
    · exact Or.inr ⟨_, (Except.error.inj h).symm⟩
    · dsimp only at h
      split at h
      · exact Or.inr ⟨_, (Except.error.inj h).symm⟩
      · next node _ =>
        rw [← start] at h
        cases hwalk : t.walk (t.start p) node p.parts with
        | ok place =>
          rw [hwalk] at h
          cases h
        | error refusal =>
          rw [hwalk] at h
          exact Or.inr ⟨refusal, (Except.error.inj h).symm⟩

theorem find_congr_of_not_writable (h : ¬Writable p) : t'.find p = t.find p := by
  rw [find, find]
  by_cases hzero : p.text.contains '\x00' = true
  · rw [if_pos hzero, if_pos hzero]
  · by_cases hlong : pathLimit < p.text.utf8ByteSize
    · rw [if_neg hzero, if_pos hlong, if_neg hzero, if_pos hlong]
    · exact absurd ⟨Bool.not_eq_true _ ▸ hzero, Nat.le_of_not_lt hlong⟩ h

theorem node?_of_find (h : t.find p = .ok place) : place.node? = t.node? place.location := by
  obtain ⟨-, node, hstart, hwalk⟩ := find_eq_ok_iff.mp h
  exact node?_of_walk hstart hwalk

theorem find_parent (h : t.find p = .ok place) (hne : p.parts ≠ []) (hname : p.name ≠ "..") :
    ∃ directory, t.node? directory = some .directory ∧ place.location = directory ++ [p.name] ∧
      p.name.utf8ByteSize ≤ nameLimit := by
  obtain ⟨-, node, hstart, hwalk⟩ := find_eq_ok_iff.mp h
  rw [← List.dropLast_concat_getLast hne, Path.getLast_parts hne] at hwalk
  obtain ⟨directory, hdirectory, hplace, hshort⟩ := walk_concat hwalk
  rw [step, if_neg hname] at hplace
  exact ⟨directory, (node?_of_walk hstart hdirectory).symm, hplace, hshort⟩

theorem getLast?_of_find (h : t.find p = .ok place) (hne : p.parts ≠ []) (hname : p.name ≠ "..") :
    place.location.getLast? = some p.name := by
  obtain ⟨directory, -, hplace, -⟩ := find_parent h hne hname
  rw [hplace, List.getLast?_concat]

/-! ## Looking -/

theorem look_eq_ok_some_iff :
    t.look p = .ok (some node) ↔ ∃ location, t.find p = .ok ⟨location, some node⟩ := by
  rw [look]
  constructor
  · intro h
    split at h
    · next place hfind => exact ⟨place.location, by rw [hfind, ← Except.ok.inj h]⟩
    · cases h
    · cases h
  · rintro ⟨location, hfind⟩
    rw [hfind]

theorem hasDirectory_eq_ok_true_iff :
    t.hasDirectory p = .ok true ↔ ∃ location, t.find p = .ok ⟨location, some .directory⟩ := by
  rw [← look_eq_ok_some_iff, hasDirectory, bind_eq_ok_iff]
  constructor
  · rintro ⟨node?, hlook, h⟩
    rw [hlook, eq_of_beq (Except.ok.inj h)]
  · exact fun hlook ↦ ⟨_, hlook, rfl⟩

theorem hasFile_eq_ok_true_iff : t.hasFile p = .ok true ↔
    ∃ location content, t.find p = .ok ⟨location, some (.file content)⟩ := by
  rw [hasFile, bind_eq_ok_iff]
  constructor
  · rintro ⟨node?, hlook, h⟩
    split at h
    · next content =>
      obtain ⟨location, hfind⟩ := look_eq_ok_some_iff.mp hlook
      exact ⟨location, content, hfind⟩
    · exact absurd (Except.ok.inj h) Bool.false_ne_true
  · rintro ⟨location, content, hfind⟩
    exact ⟨_, look_eq_ok_some_iff.mpr ⟨location, hfind⟩, rfl⟩

theorem read_eq_ok_iff :
    t.read p = .ok content ↔ ∃ location, t.find p = .ok ⟨location, some (.file content)⟩ := by
  rw [read, bind_eq_ok_iff]
  constructor
  · rintro ⟨⟨location, node?⟩, hfind, h⟩
    dsimp only at h
    split at h
    · exact ⟨location, by rw [hfind, ← Except.ok.inj h]⟩
    · cases h
    · cases h
  · rintro ⟨location, hfind⟩
    exact ⟨_, hfind, rfl⟩

/-! ## Growing -/

/-- What is there stays there and keeps its kind. -/
structure Grows (t t' : FileTree) : Prop where
  /-- Relative paths start where they did. -/
  workingDirectory : t'.workingDirectory = t.workingDirectory
  /-- Directories stay. -/
  directory : ∀ location, t.node? location = some .directory →
    t'.node? location = some .directory
  /-- Files stay, with other bytes perhaps. -/
  file : ∀ location content, t.node? location = some (.file content) →
    ∃ content', t'.node? location = some (.file content')

namespace Grows

theorem refl (t : FileTree) : t.Grows t :=
  ⟨rfl, fun _ h ↦ h, fun _ content h ↦ ⟨content, h⟩⟩

theorem trans (h : t.Grows t') (h' : t'.Grows t'') : t.Grows t'' where
  workingDirectory := h'.workingDirectory.trans h.workingDirectory
  directory location hnode := h'.directory location (h.directory location hnode)
  file location content hnode := by
    obtain ⟨content', hnode'⟩ := h.file location content hnode
    exact h'.file location content' hnode'

theorem exists_node? (h : t.Grows t') (hnode : t.node? location = some node) :
    ∃ node', t'.node? location = some node' := by
  cases node with
  | directory => exact ⟨_, h.directory location hnode⟩
  | file content =>
    obtain ⟨content', hnode'⟩ := h.file location content hnode
    exact ⟨_, hnode'⟩

theorem walk (h : t.Grows t') (hstart : t.node? location = some node)
    (hstart' : t'.node? location = some node') (hwalk : t.walk location node parts = .ok place) :
    t'.walk location node' parts = .ok ⟨place.location, t'.node? place.location⟩ := by
  induction parts generalizing location node node' with
  | nil =>
    obtain rfl := walk_nil_eq_ok_iff.mp hwalk
    exact walk_nil_eq_ok_iff.mpr (by rw [hstart'])
  | cons part parts ih =>
    obtain ⟨rfl, hshort, hnext⟩ := walk_cons_eq_ok_iff.mp hwalk
    obtain rfl : node' = .directory :=
      Option.some.inj (hstart'.symm.trans (h.directory location hstart))
    refine walk_cons_eq_ok_iff.mpr ⟨rfl, hshort, ?_⟩
    rcases hnext with ⟨next, hnext, hrest⟩ | ⟨-, rfl, rfl⟩
    · obtain ⟨next', hnext'⟩ := h.exists_node? hnext
      exact Or.inl ⟨next', hnext', ih hnext hnext' hrest⟩
    · -- the last step led to nothing, and something may have been put there since
      cases hnode : t'.node? (step location part) with
      | none => exact Or.inr ⟨rfl, rfl, rfl⟩
      | some next' => exact Or.inl ⟨next', rfl, rfl⟩

/-- **Paths lead where they led.** -/
theorem find (h : t.Grows t') (hfind : t.find p = .ok place) :
    t'.find p = .ok ⟨place.location, t'.node? place.location⟩ := by
  obtain ⟨hwritable, node, hstart, hwalk⟩ := find_eq_ok_iff.mp hfind
  have hsame : t'.start p = t.start p := by rw [start, h.workingDirectory, ← start]
  obtain ⟨node', hstart'⟩ := h.exists_node? hstart
  refine find_eq_ok_iff.mpr ⟨hwritable, node', ?_, ?_⟩
  · rw [hsame, hstart']
  · rw [hsame]
    exact h.walk hstart hstart' hwalk

theorem find_of_node?_eq (h : t.Grows t') (hfind : t.find p = .ok place)
    (hnode : t'.node? place.location = t.node? place.location) : t'.find p = .ok place := by
  rw [h.find hfind, hnode, ← node?_of_find hfind]

theorem find_directory (h : t.Grows t')
    (hfind : t.find p = .ok ⟨location, some .directory⟩) :
    t'.find p = .ok ⟨location, some .directory⟩ := by
  rw [h.find hfind, h.directory location (node?_of_find hfind).symm]

theorem node?_eq_none (h : t.Grows t') (hnode : t'.node? location = none) :
    t.node? location = none := by
  cases hold : t.node? location with
  | none => rfl
  | some node =>
    obtain ⟨node', hnode'⟩ := h.exists_node? hold
    rw [hnode] at hnode'
    cases hnode'

end Grows

/-! ## One change -/

theorem ne_nil_of_node? (h : t.node? location ≠ some .directory) : location ≠ [] := by
  rintro rfl
  exact h rfl

theorem grows_put_file (h : t.node? location ≠ some .directory) (content : List UInt8) :
    t.Grows (t.put location (.file content)) where
  workingDirectory := rfl
  directory other hother := by
    rw [t.node?_put_of_ne (by rintro rfl; exact h hother), hother]
  file other content' hother := by
    by_cases hne : other = location
    · subst hne
      exact ⟨content, t.node?_put_self (ne_nil_of_node? h) _⟩
    · exact ⟨content', by rw [t.node?_put_of_ne hne, hother]⟩

theorem grows_put_directory (h : t.node? location = none) :
    t.Grows (t.put location .directory) where
  workingDirectory := rfl
  directory other hother := by
    rw [t.node?_put_of_ne (by rintro rfl; rw [h] at hother; cases hother), hother]
  file other content hother := by
    rw [t.node?_put_of_ne (by rintro rfl; rw [h] at hother; cases hother)]
    exact ⟨content, hother⟩

theorem put_of_node? (hne : location ≠ []) (h : t.node? location = some node) :
    t.put location node = t := by
  rw [node?, if_neg (mt List.isEmpty_iff.1 hne)] at h
  rw [put, Association.put_of_lookup h]

theorem write_eq_ok_iff : t.write p content = .ok t' ↔
    ∃ place, t.find p = .ok place ∧ place.node? ≠ some .directory ∧
      t' = t.put place.location (.file content) := by
  rw [write, bind_eq_ok_iff]
  refine exists_congr fun place ↦ and_congr_right fun _ ↦ ?_
  by_cases hnode : place.node? = some .directory
  · simp [hnode]
  · simp [hnode, pure, Except.pure, eq_comm]

theorem write_of_find_none {location : Location} (h : t.find p = .ok ⟨location, none⟩) :
    t.write p content = .ok (t.put location (.file content)) :=
  write_eq_ok_iff.mpr ⟨_, h, by simp, rfl⟩

theorem makeDirectory_eq_ok_iff : t.makeDirectory p = .ok t' ↔
    ∃ location, t.find p = .ok ⟨location, none⟩ ∧ t' = t.put location .directory := by
  rw [makeDirectory, bind_eq_ok_iff]
  constructor
  · rintro ⟨⟨location, node?⟩, hfind, h⟩
    dsimp only at h
    split at h
    · cases h
    · exact ⟨location, hfind, (Except.ok.inj h).symm⟩
  · rintro ⟨location, hfind, rfl⟩
    exact ⟨_, hfind, rfl⟩

/-- **Writing.** A file that is written is found with its bytes. -/
theorem find_of_write (h : t.write p content = .ok t') :
    ∃ location, t.Grows t' ∧ t'.find p = .ok ⟨location, some (.file content)⟩ ∧
      ∀ other, other ≠ location → t'.node? other = t.node? other := by
  obtain ⟨place, hfind, hnode, rfl⟩ := write_eq_ok_iff.mp h
  rw [node?_of_find hfind] at hnode
  have hgrows := grows_put_file hnode content
  refine ⟨place.location, hgrows, ?_, fun other hother ↦ t.node?_put_of_ne hother _⟩
  rw [hgrows.find hfind, t.node?_put_self (ne_nil_of_node? hnode)]

/-! ## Directories on the way -/

/-- Directories have been made on the way to a path, each at the end of a first part of it. -/
inductive Built (p : Path) : FileTree → FileTree → Prop
  /-- None is missing. -/
  | refl (t : FileTree) : Built p t t
  /-- A missing directory is made. -/
  | make {t t' : FileTree} {q : Path} {location : Location} (h : Built p t t')
      (hq : q.parts <+: p.parts) (hfind : t'.find q = .ok ⟨location, none⟩) :
      Built p t (t'.put location .directory)

theorem Built.trans (h : Built p t t') (h' : Built p t' t'') : Built p t t'' := by
  induction h' with
  | refl => exact h
  | make _ hq hfind ih => exact ih.make hq hfind

theorem Built.extend (hpq : p.parts <+: q.parts) (h : Built p t t') : Built q t t' := by
  induction h with
  | refl => exact .refl t
  | make _ hparts hfind ih => exact ih.make (hparts.trans hpq) hfind

theorem Built.grows (h : Built p t t') : t.Grows t' := by
  induction h with
  | refl => exact .refl t
  | make _ _ hfind ih => exact ih.trans (grows_put_directory (node?_of_find hfind).symm)

theorem Built.node?_of_ne (h : Built p t t') (hne : t'.node? location ≠ t.node? location) :
    t.node? location = none ∧ t'.node? location = some .directory := by
  induction h with
  | refl => exact absurd rfl hne
  | @make t' q made h hq hfind ih =>
    have hnone : t'.node? made = none := (node?_of_find hfind).symm
    by_cases hmade : location = made
    · subst hmade
      have hnew := t'.node?_put_self (ne_nil_of_node? (by rw [hnone]; simp)) .directory
      exact ⟨h.grows.node?_eq_none hnone, hnew⟩
    · rw [t'.node?_put_of_ne hmade] at hne ⊢
      exact ih hne

theorem ensureDirectory_eq_ok (h : t.ensureDirectory p = .ok t') :
    (∃ location, t.find p = .ok ⟨location, none⟩ ∧ t' = t.put location .directory) ∨
      ((∃ location, t.find p = .ok ⟨location, some .directory⟩) ∧ t' = t) := by
  rw [ensureDirectory] at h
  split at h
  · next hmake =>
    obtain rfl := Except.ok.inj h
    exact Or.inl (makeDirectory_eq_ok_iff.mp hmake)
  · cases h
  · obtain ⟨there, hthere, h⟩ := bind_eq_ok_iff.mp h
    split at h
    · next htrue =>
      rw [htrue] at hthere
      exact Or.inr ⟨hasDirectory_eq_ok_true_iff.mp hthere, (Except.ok.inj h).symm⟩
    · cases h
  · cases h

theorem built_ensureDirectory (h : t.ensureDirectory p = .ok t') :
    Built p t t' ∧ ∃ location, t'.find p = .ok ⟨location, some .directory⟩ := by
  rcases ensureDirectory_eq_ok h with ⟨location, hfind, rfl⟩ | ⟨hfind, rfl⟩
  · have hbuilt : Built p t (t.put location .directory) :=
      (Built.refl t).make List.prefix_rfl hfind
    have hnone : t.node? location = none := (node?_of_find hfind).symm
    refine ⟨hbuilt, location, ?_⟩
    rw [hbuilt.grows.find hfind, t.node?_put_self (ne_nil_of_node? (by rw [hnone]; simp))]
  · exact ⟨.refl _, hfind⟩

/-- **Making directories.** Nothing but directories on the way to a path is made, also if a step
fails, and if none does the path leads to a directory. -/
theorem built_ensureDirectories (t : FileTree) (p : Path) :
    Built p t (t.ensureDirectories p).1 ∧ ((t.ensureDirectories p).2 = none →
      ∃ location, (t.ensureDirectories p).1.find p = .ok ⟨location, some .directory⟩) := by
  have hon (p : Path) : p.parent.parts <+: p.parts := List.dropLast_prefix p.parts
  fun_induction ensureDirectories t p with
  | case1 p t' h =>
    obtain ⟨hbuilt, hfind⟩ := built_ensureDirectory h
    exact ⟨hbuilt, fun _ ↦ hfind⟩
  | case2 p text h hnil => exact ⟨.refl t, nofun⟩
  | case3 p text h hne _ t' fault hparent ih =>
    rw [hparent] at ih
    exact ⟨ih.1.extend (hon p), nofun⟩
  | case4 p text h hne _ t' hparent t'' hmade ih =>
    rw [hparent] at ih
    obtain ⟨hbuilt, hfind⟩ := built_ensureDirectory hmade
    exact ⟨(ih.1.extend (hon p)).trans hbuilt, fun _ ↦ hfind⟩
  | case5 p text h hne _ t' hparent fault hfault ih =>
    rw [hparent] at ih
    exact ⟨ih.1.extend (hon p), nofun⟩
  | case6 p fault hne h => exact ⟨.refl t, nofun⟩

theorem ensureDirectories_of_find (h : t.find p = .ok ⟨location, some .directory⟩) :
    t.ensureDirectories p = (t, none) := by
  have hmake : t.makeDirectory p = .error (.file .alreadyExists p.text) := by
    rw [makeDirectory, h]
    rfl
  have hthere : t.hasDirectory p = .ok true := hasDirectory_eq_ok_true_iff.mpr ⟨location, h⟩
  have hensure : t.ensureDirectory p = .ok t := by
    rw [ensureDirectory, hmake]
    dsimp only
    rw [hthere]
    rfl
  rw [ensureDirectories.eq_def, hensure]

end FileTree

end AbiTypings
