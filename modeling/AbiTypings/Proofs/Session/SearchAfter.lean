import AbiTypings.Proofs.Files.SuffixSearch
import AbiTypings.Proofs.Files.WellFormed
import AbiTypings.Proofs.Session.Writing

/-!
# Searching after writing

Typings can be written into the directory that is searched for descriptions. A second search goes
through the new directories as well, but nothing in them has a name that it looks for, so it finds
what the first one found, in the same order.

`ExtendsBeside suffix t t'` says what writing does to the list of nodes, seen by a search for a
suffix: directories are added behind those that were there, and entries with other names are added
or changed. It holds after every change (`Filled.extendsBeside`), and with it the two searches are
compared directory by directory. The one thing in which they can differ is that the path to a new
directory is too long to be followed.
-/

namespace AbiTypings

namespace FileTree

variable {t t' : FileTree} {p q : Path} {location : Location} {outputs : Outputs}
  {suffix : List Char} {place : Place}

/-! ## Lists of nodes after a change -/

private theorem bind_entry_eq_none {name : String} (hlast : location.getLast? = some name)
    {f : String × FileNode → Option Path} (hf : ∀ node, f (name, node) = none)
    (directory : Location) (node : FileNode) :
    ((match location.getLast? with
      | some name => if location = directory ++ [name] then some (name, node) else none
      | none => none : Option (String × FileNode)).bind f) = none := by
  rw [hlast]
  dsimp only
  split
  · exact hf node
  · rfl

theorem filterMap_entries_put {name : String} {node : FileNode}
    (hlast : location.getLast? = some name) {f : String × FileNode → Option Path}
    (hf : ∀ node, f (name, node) = none) (directory : Location) :
    ((t.put location node).entries directory).filterMap f
      = (t.entries directory).filterMap f := by
  rw [entries, entries, List.filterMap_filterMap, List.filterMap_filterMap]
  exact Association.filterMap_put (bind_entry_eq_none hlast hf directory node)
    fun other _ ↦ bind_entry_eq_none hlast hf directory other

theorem directoriesBelow_put_directory (hne : location ≠ []) (hnode : t.node? location = none)
    (directory : Location) : ∃ more,
      (t.put location .directory).directoriesBelow directory
        = t.directoriesBelow directory ++ more ∧
      ∀ way ∈ more, directory ++ way = location := by
  have hlookup : t.nodes.lookup location = none := by
    rwa [node?, if_neg (mt List.isEmpty_iff.1 hne)] at hnode
  rw [directoriesBelow, put, Association.put_of_lookup_eq_none hlookup, List.filterMap_append,
    ← directoriesBelow]
  refine ⟨_, rfl, fun way hway ↦ ?_⟩
  obtain ⟨entry, hentry, hsome⟩ := List.mem_filterMap.mp hway
  obtain rfl := List.mem_singleton.mp hentry
  dsimp only at hsome
  split at hsome
  · next hbelow =>
    obtain ⟨rest, rfl⟩ := List.isPrefixOf_iff_prefix.mp hbelow.1
    rw [List.drop_left] at hsome
    rw [Option.some.inj hsome]
  · cases hsome

theorem directoriesBelow_put_file (hnode : t.node? location ≠ some .directory)
    (content : List UInt8) (directory : Location) :
    (t.put location (.file content)).directoriesBelow directory = t.directoriesBelow directory := by
  refine Association.filterMap_put (if_neg fun h ↦ nomatch h.2.2) fun other hother ↦ ?_
  refine if_neg fun h ↦ hnode ?_
  rw [node?, if_neg (mt List.isEmpty_iff.1 (ne_nil_of_node? hnode)), hother, h.2.2]

/-! ## More directories, and entries with other names -/

/-- A tree with more in it, none of which has a name with the suffix. -/
structure ExtendsBeside (suffix : List Char) (t t' : FileTree) : Prop where
  /-- The larger tree is one that a file system can have. -/
  wellFormed : t'.WellFormed
  /-- What was there is there. -/
  grows : t.Grows t'
  /-- New directories are listed behind those that were there. -/
  directories : ∀ location, ∃ more,
    t'.directoriesBelow location = t.directoriesBelow location ++ more ∧
      ∀ way ∈ more, t.node? (location ++ way) = none ∧
        t'.node? (location ++ way) = some .directory
  /-- The entries with the suffix are the same. -/
  entries : ∀ location (f : String × FileNode → Option Path),
    (∀ name node, ¬suffix <:+ name.toList → f (name, node) = none) →
    (t'.entries location).filterMap f = (t.entries location).filterMap f

theorem extendsBeside_refl (h : t.WellFormed) : ExtendsBeside suffix t t :=
  ⟨h, .refl t, fun _ ↦ ⟨[], (List.append_nil _).symm, nofun⟩, fun _ _ _ ↦ rfl⟩

theorem ExtendsBeside.put_directory (h : ExtendsBeside suffix t t')
    (hfind : t'.find q = .ok ⟨location, none⟩)
    (hparts : ∀ part ∈ q.parts, ¬suffix <:+ part.toList) :
    ExtendsBeside suffix t (t'.put location .directory) := by
  obtain ⟨hne, hback⟩ := h.wellFormed.name_of_find hfind nofun
  have hlast := getLast?_of_find hfind hne hback
  have hnode : t'.node? location = none := (node?_of_find hfind).symm
  have hlocation : location ≠ [] := ne_nil_of_node? (by rw [hnode]; simp)
  have hgrows := grows_put_directory hnode
  refine ⟨h.wellFormed.put_directory hfind, h.grows.trans hgrows, fun directory ↦ ?_,
    fun directory f hf ↦ ?_⟩
  · obtain ⟨more, hmore, hnew⟩ := h.directories directory
    obtain ⟨last, hput, hend⟩ := directoriesBelow_put_directory hlocation hnode directory
    refine ⟨more ++ last, by rw [hput, hmore, List.append_assoc], fun way hway ↦ ?_⟩
    rcases List.mem_append.mp hway with hway | hway
    · exact ⟨(hnew way hway).1, hgrows.directory _ (hnew way hway).2⟩
    · rw [hend way hway]
      exact ⟨h.grows.node?_eq_none hnode, t'.node?_put_self hlocation _⟩
  · have hname := hparts q.name (Path.name_mem_parts hne)
    rw [filterMap_entries_put hlast fun node ↦ hf _ node hname]
    exact h.entries directory f hf

theorem ExtendsBeside.put_file (h : ExtendsBeside suffix t t') (hfind : t'.find p = .ok place)
    (hnode : place.node? ≠ some .directory) (hname : ¬suffix <:+ p.name.toList)
    (content : List UInt8) :
    ExtendsBeside suffix t (t'.put place.location (.file content)) := by
  obtain ⟨hne, hback⟩ := h.wellFormed.name_of_find hfind hnode
  have hlast := getLast?_of_find hfind hne hback
  have hwellFormed := h.wellFormed.put_file hfind hnode content
  rw [node?_of_find hfind] at hnode
  have hgrows := grows_put_file hnode content
  refine ⟨hwellFormed, h.grows.trans hgrows, fun directory ↦ ?_, fun directory f hf ↦ ?_⟩
  · obtain ⟨more, hmore, hnew⟩ := h.directories directory
    refine ⟨more, by rw [directoriesBelow_put_file hnode, hmore], fun way hway ↦ ?_⟩
    exact ⟨(hnew way hway).1, hgrows.directory _ (hnew way hway).2⟩
  · rw [filterMap_entries_put hlast fun node ↦ hf _ node hname]
    exact h.entries directory f hf

/-- The paths of outputs have no part with the suffix. -/
def Avoids (suffix : List Char) (outputs : Outputs) : Prop :=
  ∀ output ∈ outputs, ∀ part ∈ (Path.read output.1).parts, ¬suffix <:+ part.toList

theorem Built.extendsBeside (h : Built p t t') {t₀ : FileTree} (h₀ : ExtendsBeside suffix t₀ t)
    (hparts : ∀ part ∈ p.parts, ¬suffix <:+ part.toList) : ExtendsBeside suffix t₀ t' := by
  induction h with
  | refl => exact h₀
  | make _ hq hfind ih =>
    exact ih.put_directory hfind fun part hpart ↦ hparts part (hq.subset hpart)

/-- **What writing adds** stands beside what has the suffix. -/
theorem Filled.extendsBeside (h : Filled outputs t t') (ht : t.WellFormed)
    (havoids : Avoids suffix outputs) : ExtendsBeside suffix t t' := by
  induction h with
  | refl => exact extendsBeside_refl ht
  | build _ houtput hbuilt ih =>
    refine hbuilt.extendsBeside ih fun part hpart ↦ havoids _ houtput part ?_
    exact List.dropLast_subset _ hpart
  | @store t' output place _ houtput hfind hnode ih =>
    obtain ⟨hne, -⟩ := ih.wellFormed.name_of_find hfind hnode
    exact ih.put_file hfind hnode (havoids output houtput _ (Path.name_mem_parts hne)) _

/-! ## The second search -/

theorem WellFormed.node?_of_mem_directoriesBelow (h : t.WellFormed) {way : List String}
    (hway : way ∈ t.directoriesBelow location) :
    t.node? (location ++ way) = some .directory := by
  obtain ⟨⟨place, node⟩, hmem, hsome⟩ := List.mem_filterMap.mp hway
  dsimp only at hsome
  split at hsome
  · next hbelow =>
    obtain ⟨hbelow, hne, rfl⟩ := hbelow
    obtain ⟨rest, rfl⟩ := List.isPrefixOf_iff_prefix.mp hbelow
    rw [List.drop_left] at hsome
    obtain rfl := Option.some.inj hsome
    refine h.node?_of_mem hmem fun hnil ↦ ?_
    obtain ⟨rfl, rfl⟩ := List.append_eq_nil_iff.mp hnil
    exact hne rfl
  · cases hsome

theorem WellFormed.entries_eq_nil (h : t.WellFormed)
    (hnode : t.node? location ≠ some .directory) : t.entries location = [] := by
  refine List.filterMap_eq_nil_iff.mpr fun ⟨place, node⟩ hmem ↦ ?_
  dsimp only
  split
  · next name hlast =>
    refine if_neg fun hplace ↦ hnode ?_
    have hparent := h.parent place node hmem
    rwa [hplace, List.dropLast_concat] at hparent
  · rfl

namespace ExtendsBeside

variable {way : List String}

theorem pathsMatching_eq (h : ExtendsBeside suffix t t')
    (hfind : t.find p = .ok ⟨location, some .directory⟩) :
    t'.pathsMatching (.endingIn suffix) false p = t.pathsMatching (.endingIn suffix) false p := by
  rw [pathsMatching_of_find hfind, pathsMatching_of_find (h.grows.find_directory hfind)]
  exact h.entries location _ fun name node hname ↦
    if_neg fun haccepts ↦ hname (Wildcard.accepts_endingIn.mp haccepts)

theorem search_old (h : ExtendsBeside suffix t t') (ht : t.WellFormed)
    (hfind : t.find p = .ok ⟨location, some .directory⟩) (hway : way ∈ t.directoriesBelow location)
    (hlook : ∃ node?, t.look ⟨p.anchor, p.parts ++ way⟩ = .ok node?) :
    (∃ node?, t'.look ⟨p.anchor, p.parts ++ way⟩ = .ok node?) ∧
      t'.pathsMatching (.endingIn suffix) false ⟨p.anchor, p.parts ++ way⟩
        = t.pathsMatching (.endingIn suffix) false ⟨p.anchor, p.parts ++ way⟩ := by
  by_cases hwritable : Writable ⟨p.anchor, p.parts ++ way⟩
  · have hbelow := ht.find_below hfind (ht.node?_of_mem_directoriesBelow hway) hwritable
    refine ⟨⟨some .directory, ?_⟩, h.pathsMatching_eq hbelow⟩
    rw [look, h.grows.find_directory hbelow]
  · rw [pathsMatching_of_not_writable hwritable, pathsMatching_of_not_writable hwritable]
    rw [look, ← find_congr_of_not_writable hwritable, ← look] at hlook
    exact ⟨hlook, rfl⟩

theorem search_new (h : ExtendsBeside suffix t t') (ht : t.WellFormed)
    (hfind : t.find p = .ok ⟨location, some .directory⟩)
    (hold : t.node? (location ++ way) = none)
    (hnew : t'.node? (location ++ way) = some .directory)
    (hshort : (Path.mk p.anchor (p.parts ++ way)).text.utf8ByteSize ≤ pathLimit) :
    (∃ node?, t'.look ⟨p.anchor, p.parts ++ way⟩ = .ok node?) ∧
      t'.pathsMatching (.endingIn suffix) false ⟨p.anchor, p.parts ++ way⟩ = [] := by
  by_cases hwritable : Writable ⟨p.anchor, p.parts ++ way⟩
  · have hbelow := h.wellFormed.find_below (h.grows.find_directory hfind) hnew hwritable
    refine ⟨⟨some .directory, by rw [look, hbelow]⟩, ?_⟩
    -- what stands in a new directory was put there, so it has another name
    rw [pathsMatching_of_find hbelow, h.entries (location ++ way) _ fun name node hname ↦
      if_neg fun haccepts ↦ hname (Wildcard.accepts_endingIn.mp haccepts),
      ht.entries_eq_nil (by rw [hold]; simp)]
    rfl
  · refine ⟨⟨none, ?_⟩, pathsMatching_of_not_writable hwritable _⟩
    have hzero : (Path.mk p.anchor (p.parts ++ way)).text.contains '\x00' = true :=
      Decidable.byContradiction fun hzero ↦ hwritable ⟨Bool.eq_false_iff.mpr hzero, hshort⟩
    rw [look, find, if_pos hzero]

/-- **The second search** looks at every directory and finds what the first one found, if the paths
to the new directories can be followed. -/
theorem search_below (h : ExtendsBeside suffix t t') (ht : t.WellFormed)
    (hfind : t.find p = .ok ⟨location, some .directory⟩)
    (hlooks : ∀ q ∈ p :: t.pathsBelow p, ∃ node?, t.look q = .ok node?)
    (hshort : ∀ q ∈ t'.pathsBelow p, q.text.utf8ByteSize ≤ pathLimit) :
    (∀ q ∈ p :: t'.pathsBelow p, ∃ node?, t'.look q = .ok node?) ∧
      (p :: t'.pathsBelow p).flatMap (t'.pathsMatching (.endingIn suffix) false)
        = (p :: t.pathsBelow p).flatMap (t.pathsMatching (.endingIn suffix) false) := by
  have hfind' := h.grows.find_directory hfind
  obtain ⟨more, hmore, hnew⟩ := h.directories location
  obtain ⟨-, hlooks⟩ := List.forall_mem_cons.mp hlooks
  rw [pathsBelow_of_find hfind', hmore, List.map_append] at hshort ⊢
  rw [pathsBelow_of_find hfind] at hlooks ⊢
  have hold : ∀ way ∈ t.directoriesBelow location, _ := fun way hway ↦
    h.search_old ht hfind hway (hlooks _ (List.mem_map_of_mem hway))
  have hadded : ∀ way ∈ more, _ := fun way hway ↦
    h.search_new ht hfind (hnew way hway).1 (hnew way hway).2
      (hshort _ (List.mem_append_right _ (List.mem_map_of_mem hway)))
  constructor
  · refine List.forall_mem_cons.mpr ⟨⟨some .directory, by rw [look, hfind']⟩, fun q hq ↦ ?_⟩
    rcases List.mem_append.mp hq with hq | hq
    · obtain ⟨way, hway, rfl⟩ := List.mem_map.mp hq
      exact (hold way hway).1
    · obtain ⟨way, hway, rfl⟩ := List.mem_map.mp hq
      exact (hadded way hway).1
  · have hnone : (more.map fun way ↦ Path.mk p.anchor (p.parts ++ way)).flatMap
        (t'.pathsMatching (.endingIn suffix) false) = [] := by
      rw [List.flatMap_eq_nil_iff]
      intro q hq
      obtain ⟨way, hway, rfl⟩ := List.mem_map.mp hq
      exact (hadded way hway).2
    have hsame :
        ((t.directoriesBelow location).map fun way ↦ Path.mk p.anchor (p.parts ++ way)).flatMap
          (t'.pathsMatching (.endingIn suffix) false)
        = ((t.directoriesBelow location).map fun way ↦ Path.mk p.anchor (p.parts ++ way)).flatMap
          (t.pathsMatching (.endingIn suffix) false) := by
      refine congrArg List.flatten (List.map_congr_left fun q hq ↦ ?_)
      obtain ⟨way, hway, rfl⟩ := List.mem_map.mp hq
      exact (hold way hway).2
    rw [List.flatMap_cons, List.flatMap_append, hnone, hsame, List.append_nil,
      h.pathsMatching_eq hfind, List.flatMap_cons]

end ExtendsBeside

end FileTree

end AbiTypings
