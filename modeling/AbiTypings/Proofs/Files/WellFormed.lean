import AbiTypings.Proofs.Files.Growth

/-!
# Well-formed trees

A list of nodes is more than a file system can have: it could name a place twice, or put something
into a directory that is not there. `FileTree.WellFormed` leaves these lists out, and what a run
does to a well-formed tree, making directories and writing files, leads to one.

Well-formed is what a search needs. It finds the directories below a path in the list of nodes, and
then follows a path to each of them; the paths lead there because nothing on the way is missing
(`WellFormed.find_below`).
-/

namespace AbiTypings.FileTree

variable {t t' : FileTree} {p q : Path} {location place : Location} {way : List String}
  {node : FileNode}

/-- A tree that a file system can have. -/
structure WellFormed (t : FileTree) : Prop where
  /-- No place is named twice. -/
  nodup : (t.nodes.map Prod.fst).Nodup
  /-- Everything stands in a directory. -/
  parent : ∀ location node, (location, node) ∈ t.nodes →
    t.node? location.dropLast = some .directory
  /-- Names are no longer than allowed, and going back is not a name. -/
  name : ∀ location node name, (location, node) ∈ t.nodes → location.getLast? = some name →
    name ≠ ".." ∧ name.utf8ByteSize ≤ nameLimit
  /-- Relative paths start in a directory. -/
  workingDirectory : t.node? t.workingDirectory = some .directory

/-- The trees that a file system can have. -/
abbrev Proper := {t : FileTree // t.WellFormed}

/-! ## Looking up -/

theorem mem_of_node? (hne : location ≠ []) (h : t.node? location = some node) :
    (location, node) ∈ t.nodes := by
  rw [node?, if_neg (mt List.isEmpty_iff.1 hne)] at h
  exact Association.mem_of_lookup h

namespace WellFormed

theorem node?_of_mem (h : t.WellFormed) (hmem : (location, node) ∈ t.nodes)
    (hne : location ≠ []) : t.node? location = some node := by
  rw [node?, if_neg (mt List.isEmpty_iff.1 hne)]
  exact Association.lookup_of_mem h.nodup hmem

theorem node?_dropLast (h : t.WellFormed) (hnode : t.node? location = some node) :
    t.node? location.dropLast = some .directory := by
  by_cases hne : location = []
  · rw [hne]
    rfl
  · exact h.parent location node (mem_of_node? hne hnode)

theorem exists_node?_of_append (h : t.WellFormed)
    (hnode : t.node? (location ++ way) = some node) : ∃ first, t.node? location = some first := by
  induction way generalizing location with
  | nil => exact ⟨node, by rwa [List.append_nil] at hnode⟩
  | cons name way ih =>
    rw [List.append_cons] at hnode
    obtain ⟨next, hnext⟩ := ih hnode
    have hparent := h.node?_dropLast hnext
    rw [List.dropLast_concat] at hparent
    exact ⟨_, hparent⟩

theorem node?_of_append (h : t.WellFormed) (hway : way ≠ [])
    (hnode : t.node? (location ++ way) = some node) : t.node? location = some .directory := by
  obtain ⟨name, rest, rfl⟩ := List.exists_cons_of_ne_nil hway
  rw [List.append_cons] at hnode
  obtain ⟨next, hnext⟩ := h.exists_node?_of_append hnode
  have hparent := h.node?_dropLast hnext
  rwa [List.dropLast_concat] at hparent

/-! ## Following a path downwards -/

theorem walk_below (h : t.WellFormed) (hstart : t.node? location = some .directory)
    (hnode : t.node? (location ++ way) = some node) :
    t.walk location .directory way = .ok ⟨location ++ way, some node⟩ := by
  induction way generalizing location with
  | nil =>
    rw [List.append_nil] at hnode ⊢
    rw [hstart] at hnode
    obtain rfl := Option.some.inj hnode
    rfl
  | cons name way ih =>
    rw [List.append_cons] at hnode ⊢
    obtain ⟨next, hnext⟩ := h.exists_node?_of_append hnode
    have hmem := mem_of_node? (List.append_ne_nil_of_right_ne_nil _ (List.cons_ne_nil _ _)) hnext
    obtain ⟨hname, hshort⟩ := h.name _ _ name hmem List.getLast?_concat
    have hstep : step location name = location ++ [name] := if_neg hname
    refine walk_cons_eq_ok_iff.mpr ⟨rfl, hshort, Or.inl ⟨next, hstep ▸ hnext, ?_⟩⟩
    rw [hstep]
    cases next with
    | directory => exact ih hnext hnode
    | file content =>
      -- nothing stands below a file, so the way ends here
      obtain rfl : way = [] := Decidable.byContradiction fun hway ↦ by
        rw [h.node?_of_append hway hnode] at hnext
        cases hnext
      rw [List.append_nil] at hnode ⊢
      rw [hnext] at hnode
      rw [← Option.some.inj hnode]
      rfl

theorem walk_append {parts : List String} {start : Location} {first : FileNode}
    (h : t.walk start first parts = .ok ⟨location, some node⟩) (more : List String) :
    t.walk start first (parts ++ more) = t.walk location node more := by
  induction parts generalizing start first with
  | nil =>
    obtain ⟨rfl, hnode⟩ := Place.mk.inj (walk_nil_eq_ok_iff.mp h)
    obtain rfl := Option.some.inj hnode
    rfl
  | cons part parts ih =>
    obtain ⟨rfl, hshort, ⟨next, hnext, hrest⟩ | ⟨-, -, hplace⟩⟩ := walk_cons_eq_ok_iff.mp h
    · rw [List.cons_append, walk, if_neg (Nat.not_lt_of_le hshort), hnext]
      exact ih hrest
    · cases hplace

/-- **Searching downwards.** A path that can be written leads to what stands below its start. -/
theorem find_below (h : t.WellFormed) (hfind : t.find p = .ok ⟨location, some .directory⟩)
    (hnode : t.node? (location ++ way) = some node)
    (hwritable : Writable ⟨p.anchor, p.parts ++ way⟩) :
    t.find ⟨p.anchor, p.parts ++ way⟩ = .ok ⟨location ++ way, some node⟩ := by
  obtain ⟨-, first, hstart, hwalk⟩ := find_eq_ok_iff.mp hfind
  refine find_eq_ok_iff.mpr ⟨hwritable, first, hstart, ?_⟩
  have hsame : t.start ⟨p.anchor, p.parts ++ way⟩ = t.start p := rfl
  rw [hsame, walk_append hwalk]
  exact h.walk_below (node?_of_find hfind).symm hnode

/-! ## Staying well-formed -/

theorem put (h : t.WellFormed) {directory : Location} {name : String}
    (hdirectory : t.node? directory = some .directory) (hname : name ≠ "..")
    (hshort : name.utf8ByteSize ≤ nameLimit) (hgrows : t.Grows (t.put (directory ++ [name]) node)) :
    (t.put (directory ++ [name]) node).WellFormed := by
  have hkeys : ∀ location other, (location, other) ∈ (t.put (directory ++ [name]) node).nodes →
      location = directory ++ [name] ∨ ∃ old, (location, old) ∈ t.nodes := by
    intro location other hmem
    have hkey : location ∈ (t.put (directory ++ [name]) node).nodes.map Prod.fst :=
      List.mem_map_of_mem hmem
    refine (Association.mem_keys_put.mp hkey).imp_right fun hkept ↦ ?_
    obtain ⟨⟨place, old⟩, hold, rfl⟩ := List.mem_map.mp hkept
    exact ⟨old, hold⟩
  refine ⟨Association.nodup_keys_put h.nodup, fun location other hmem ↦ hgrows.directory _ ?_,
    fun location other last hmem hlast ↦ ?_, hgrows.directory _ h.workingDirectory⟩
  · rcases hkeys location other hmem with rfl | ⟨old, hold⟩
    · rwa [List.dropLast_concat]
    · exact h.parent location old hold
  · rcases hkeys location other hmem with rfl | ⟨old, hold⟩
    · rw [List.getLast?_concat] at hlast
      obtain rfl := Option.some.inj hlast
      exact ⟨hname, hshort⟩
    · exact h.name location old last hold hlast

theorem node?_start (h : t.WellFormed) (p : Path) : t.node? (t.start p) = some .directory := by
  rw [start]
  split
  · exact h.workingDirectory
  · rfl

theorem name_of_find (h : t.WellFormed) {place : Place} (hfind : t.find p = .ok place)
    (hnode : place.node? ≠ some .directory) : p.parts ≠ [] ∧ p.name ≠ ".." := by
  obtain ⟨-, first, hstart, hwalk⟩ := find_eq_ok_iff.mp hfind
  have hne : p.parts ≠ [] := by
    intro hnil
    rw [hnil] at hwalk
    obtain rfl := walk_nil_eq_ok_iff.mp hwalk
    exact hnode (hstart.symm.trans (h.node?_start p))
  refine ⟨hne, fun hback ↦ hnode ?_⟩
  rw [← List.dropLast_concat_getLast hne, Path.getLast_parts hne, hback] at hwalk
  obtain ⟨directory, hdirectory, hplace, -⟩ := walk_concat hwalk
  -- going back from a directory leads to a directory
  rw [node?_of_find hfind, hplace, step, if_pos rfl]
  exact h.node?_dropLast (node?_of_walk hstart hdirectory).symm

theorem put_directory (h : t.WellFormed) (hfind : t.find p = .ok ⟨location, none⟩) :
    (t.put location .directory).WellFormed := by
  obtain ⟨hne, hname⟩ := h.name_of_find hfind nofun
  obtain ⟨directory, hdirectory, rfl, hshort⟩ := find_parent hfind hne hname
  exact h.put hdirectory hname hshort (grows_put_directory (node?_of_find hfind).symm)

theorem put_file (h : t.WellFormed) {place : Place} (hfind : t.find p = .ok place)
    (hnode : place.node? ≠ some .directory) (content : List UInt8) :
    (t.put place.location (.file content)).WellFormed := by
  obtain ⟨hne, hname⟩ := h.name_of_find hfind hnode
  obtain ⟨directory, hdirectory, hplace, hshort⟩ := find_parent hfind hne hname
  rw [node?_of_find hfind] at hnode
  have hgrows := grows_put_file hnode content
  rw [hplace] at hgrows ⊢
  exact h.put hdirectory hname hshort hgrows

end WellFormed

end AbiTypings.FileTree
