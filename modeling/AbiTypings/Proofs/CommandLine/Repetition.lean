import AbiTypings.Proofs.CommandLine.Effect
import AbiTypings.Proofs.Files.Detour
import AbiTypings.Proofs.Session.SearchAfter

/-!
# Running again

A second run meets the typings that the first one has written. It does the same as the first: it
finds the same descriptions, reads them as they were, and writes what is there already
(`runProgram_again`).

Two things could go wrong, and both are excluded by what is asked of the names. A description could
be taken for typings and be overwritten, and typings could be taken for descriptions. A third one
remains: a search goes through the directories that the first run has made, and where the path to
one of them is too long the second run fails (`runProgram_again_detour`).
-/

namespace AbiTypings

variable {settings : Settings} {console : Console} {files files' : FileTree} {file : Path}
  {fault : Fault} {bytes : List UInt8}

/-! ## Reading the same -/

theorem FileTree.read_of_contained (h : files.read file = .error fault)
    (hfault : fault.isContained = true) : files'.read file = .error fault := by
  cases hfind : files.find file with
  | error fault' =>
    rcases find_eq_error hfind with ⟨-, hwritable⟩ | ⟨refusal, rfl⟩
    · rw [read, find_congr_of_not_writable hwritable, ← read, h]
    · rw [read, hfind] at h
      obtain rfl := Except.error.inj h
      cases hfault
  | ok place =>
    rw [read, hfind] at h
    dsimp only [bind, Except.bind] at h
    split at h
    · cases h
    · obtain rfl := Except.error.inj h
      cases hfault
    · obtain rfl := Except.error.inj h
      cases hfault

/-- What a file becomes depends on its bytes alone, unless it stops the run. -/
theorem FileOutcome.Becomes.of_read {outcome : FileOutcome} {before : Outputs}
    (h : outcome.Becomes settings files before file) (hgoes : outcome.stop? console file = none)
    (hread : ∀ bytes, files.read file = .ok bytes → files'.read file = .ok bytes) :
    outcome.Becomes settings files' before file := by
  cases h with
  | unnamed hname => exact .unnamed hname
  | collided hname htaken => exact .collided hname htaken
  | @failed name fault notes hname hfree htypings =>
    have hfault : fault.isContained = true := (stop?_failed_eq_none_iff.mp hgoes).1
    have hsame : files'.read file = files.read file := by
      cases hfirst : files.read file with
      | ok bytes => exact hread bytes hfirst
      | error fault' =>
        rw [typingsOfFile_of_read_error hfirst] at htypings
        obtain rfl := Except.error.inj (congrArg Noted.result htypings)
        exact FileTree.read_of_contained hfirst hfault
    exact .failed hname hfree ((typingsOfFile_congr hsame).trans htypings)
  | @generated name text notes hname hfree htypings =>
    have hsame : files'.read file = files.read file := by
      cases hfirst : files.read file with
      | ok bytes => exact hread bytes hfirst
      | error fault' =>
        rw [typingsOfFile_of_read_error hfirst] at htypings
        cases congrArg Noted.result htypings
    exact .generated hname hfree ((typingsOfFile_congr hsame).trans htypings)

theorem DirectoryRun.Steps.of_read {run : DirectoryRun} {before : Outputs} {rest : List Path}
    (h : run.Steps settings files before rest) (hgoes : run.Goes console)
    (hread : ∀ file ∈ rest, ∀ bytes, files.read file = .ok bytes →
      files'.read file = .ok bytes) : run.Steps settings files' before rest := by
  induction h with
  | nil => exact .nil
  | cons hfile hrest ih =>
    obtain ⟨hfirst, hothers⟩ := goes_cons_iff.mp hgoes
    obtain ⟨hfirst', hothers'⟩ := List.forall_mem_cons.mp hread
    exact .cons (hfile.of_read hfirst hfirst') (ih hothers hothers')

/-! ## Names of descriptions and of typings -/

theorem not_suffix_typings {name : List Char} (h : ".json".toList <:+ name) :
    ¬".d.ts".toList <:+ name := by
  intro h'
  have hsame := List.suffix_of_suffix_length_le h h' (by decide)
  exact absurd hsame (by decide)

theorem FileTree.suffix_of_mem_pathsMatching {suffix : List Char} {p : Path}
    (h : file ∈ files.pathsMatching (.endingIn suffix) false p) : suffix <:+ file.name.toList := by
  rw [pathsMatching] at h
  split at h
  · obtain ⟨⟨name, node⟩, -, hsome⟩ := List.mem_filterMap.mp h
    dsimp only at hsome
    split at hsome
    · next haccepts =>
      rw [← Option.some.inj hsome, Path.name_child]
      exact Wildcard.accepts_endingIn.mp (Bool.and_eq_true_iff.mp haccepts).2
    · cases hsome
  · exact absurd h List.not_mem_nil

theorem FileTree.suffix_of_search {p : Path} {paths : List Path}
    (hdirectory : files.hasDirectory p = .ok true)
    (hsearch : files.search (some "**/*.json") p = .ok paths) (h : file ∈ paths) :
    ".json".toList <:+ file.name.toList := by
  obtain ⟨-, rfl⟩ := (search_descriptions_eq_ok_iff hdirectory).mp hsearch
  rw [Path.sort, List.mem_mergeSort, List.mem_eraseDups] at h
  obtain ⟨q, -, hq⟩ := List.mem_flatMap.mp h
  exact suffix_of_mem_pathsMatching hq

/-- What was found is found again, if the paths of new directories can be followed. -/
theorem FileTree.ExtendsBeside.search_again {p : Path} {paths : List Path}
    (h : ExtendsBeside ".json".toList files files') (hfiles : files.WellFormed)
    (hdirectory : files.hasDirectory p = .ok true)
    (hsearch : files.search (some "**/*.json") p = .ok paths)
    (hshort : ∀ q ∈ files'.pathsBelow p, q.text.utf8ByteSize ≤ pathLimit) :
    files'.hasDirectory p = .ok true ∧ files'.search (some "**/*.json") p = .ok paths := by
  obtain ⟨location, hfind⟩ := hasDirectory_eq_ok_true_iff.mp hdirectory
  have hdirectory' := hasDirectory_eq_ok_true_iff.mpr ⟨location, h.grows.find_directory hfind⟩
  obtain ⟨hlooks, rfl⟩ := (search_descriptions_eq_ok_iff hdirectory).mp hsearch
  obtain ⟨hlooks', hsame⟩ := h.search_below hfiles hfind hlooks hshort
  refine ⟨hdirectory', (search_descriptions_eq_ok_iff hdirectory').mpr ⟨hlooks', ?_⟩⟩
  rw [hsame]

theorem FileTree.hasFile_of_hasDirectory {p : Path} (h : files.hasDirectory p = .ok true) :
    files.hasFile p = .ok false := by
  obtain ⟨location, hfind⟩ := hasDirectory_eq_ok_true_iff.mp h
  rw [hasFile, look, hfind]
  rfl

namespace CommandLine

variable {a : Arguments} {outputs : Outputs} {progress : Text} {ds : List Diagnostic}
  {t : FileTree}

/-- The output directory has no part that looks like a description. -/
def Arguments.AvoidsDescriptions (a : Arguments) : Prop :=
  ∀ directory, a.output? = some directory → ∀ part ∈ (Path.read directory).parts,
    ¬".json".toList <:+ part.toList

/-- The input is a directory that is searched for descriptions, or a file that cannot be taken for
typings. -/
inductive Arguments.HasPlainInput (a : Arguments) (files : FileTree) : Prop
  /-- The input is a directory. -/
  | directory (hdirectory : files.hasDirectory a.inputPath = .ok true)
      (hpattern : a.pattern? = some "**/*.json")
  /-- The input is a file. -/
  | file (hfile : files.hasFile a.inputPath = .ok true)
      (hname : ¬".d.ts".toList <:+ a.inputPath.name.toList)

theorem Arguments.Generates.avoids (h : a.Generates console files outputs progress ds)
    (ha : a.AvoidsDescriptions) : FileTree.Avoids ".json".toList outputs := by
  obtain ⟨directory, hdirectory, -, hsources⟩ := h.exists_source
  intro output houtput part hpart
  obtain ⟨file, name, -, hname, -, hplace⟩ := hsources output houtput
  rw [hplace, Path.read_text ((Path.isProper_read directory).child (isPart_typings hname))] at hpart
  rcases List.mem_append.mp hpart with hpart | hpart
  · exact ha directory hdirectory part hpart
  · rw [List.mem_singleton.mp hpart, String.toList_append]
    exact fun hsuffix ↦ not_suffix_typings hsuffix (List.suffix_append _ _)

theorem Arguments.Generates.read_of_filled (h : a.Generates console files outputs progress ds)
    (hfiles : files.WellFormed) (hfilled : FileTree.Filled outputs files t)
    (hname : ¬".d.ts".toList <:+ file.name.toList) (hread : files.read file = .ok bytes) :
    t.read file = .ok bytes := by
  obtain ⟨location, hfind⟩ := FileTree.read_eq_ok_iff.mp hread
  obtain ⟨hne, hback⟩ := hfiles.name_of_find hfind nofun
  have hlast := FileTree.getLast?_of_find hfind hne hback
  have hnode := (FileTree.node?_of_find hfind).symm
  have hkept := h.kept hfilled hlast hname hnode
  refine FileTree.read_eq_ok_iff.mpr ⟨location, ?_⟩
  exact hfilled.grows.find_of_node?_eq hfind (hkept.trans hnode.symm)

/-- **Generating again.** From the files that were written, the same is generated. -/
theorem Arguments.Generates.again (h : a.Generates console files outputs progress ds)
    (hfiles : files.WellFormed) (hfilled : FileTree.Filled outputs files t)
    (ha : a.AvoidsDescriptions) (hinput : a.HasPlainInput files)
    (hshort : ∀ q ∈ t.pathsBelow a.inputPath, q.text.utf8ByteSize ≤ FileTree.pathLimit) :
    a.Generates console t outputs progress ds := by
  have hread : ∀ file bytes, ¬".d.ts".toList <:+ file.name.toList →
      files.read file = .ok bytes → t.read file = .ok bytes :=
    fun file bytes hname hfirst ↦ h.read_of_filled hfiles hfilled hname hfirst
  have hextends := hfilled.extendsBeside hfiles (h.avoids ha)
  cases h with
  | @file settings name text notes hsettings hfile hname htypings =>
    cases hinput with
    | directory hdirectory _ =>
      rw [FileTree.hasFile_of_hasDirectory hdirectory] at hfile
      cases hfile
    | file _ hplain =>
      obtain ⟨bytes, hfirst⟩ := exists_read_of_hasFile hfile
      have hagain := hread a.inputPath bytes hplain hfirst
      obtain ⟨location, hfind⟩ := FileTree.read_eq_ok_iff.mp hagain
      have hfile' := FileTree.hasFile_eq_ok_true_iff.mpr ⟨location, bytes, hfind⟩
      exact .file hsettings hfile' hname
        ((typingsOfFile_congr (hagain.trans hfirst.symm)).trans htypings)
  | @directory settings paths run hsettings hfile hdirectory hsearch hsteps hgoes =>
    cases hinput with
    | file hfile' _ =>
      rw [hfile] at hfile'
      cases hfile'
    | directory _ hpattern =>
      rw [hpattern] at hsearch
      -- descriptions are not overwritten, since none is named like typings
      have hnames : ∀ file ∈ paths, ¬".d.ts".toList <:+ file.name.toList := fun file hmem ↦
        not_suffix_typings (FileTree.suffix_of_search hdirectory hsearch hmem)
      obtain ⟨hdirectory', hsearch'⟩ :=
        hextends.search_again hfiles hdirectory hsearch hshort
      rw [← hpattern] at hsearch'
      exact .directory hsettings (FileTree.hasFile_of_hasDirectory hdirectory') hdirectory' hsearch'
        (hsteps.of_read hgoes fun file hmem bytes ↦ hread file bytes (hnames file hmem)) hgoes

/-- **Running again.** On a tree that a file system can have, where the output directory cannot be
taken for a description and a single input cannot be taken for typings, a run that was to write
typings and has succeeded is repeated on the files it has left: it ends the same, prints and reports
the same, and changes nothing. This needs all directories below the input to have paths that can be
followed. -/
theorem runProgram_again (program : String) (console : Console) (arguments : List String)
    (files : FileTree.Proper) (a : Arguments) (ha : Arguments.read arguments = .ok a)
    (hstdout : a.stdout = false) (havoids : a.AvoidsDescriptions)
    (hinput : a.HasPlainInput files.val)
    (hstatus : (runProgram program console arguments files.val).status = .ok 0)
    (hshort : ∀ q ∈ (runProgram program console arguments files.val).files.pathsBelow a.inputPath,
      q.text.utf8ByteSize ≤ FileTree.pathLimit) :
    runProgram program console arguments (runProgram program console arguments files.val).files
      = runProgram program console arguments files.val := by
  obtain ⟨files, hfiles⟩ := files
  obtain ⟨outputs, progress, ds, h⟩ : ∃ outputs progress ds,
      a.Generates console files outputs progress ds := by
    refine Classical.byContradiction fun hnone ↦
      (runProgram_not_generates program ha ?_).2 hstatus
    exact fun outputs progress ds h ↦ hnone ⟨outputs, progress, ds, h⟩
  obtain ⟨hwritten, hfault, hreporting⟩ := runProgram_written program ha hstdout h
  have hdone : (files.depositAll outputs).2 = none := by
    cases hdeposit : (files.depositAll outputs).2 with
    | none => rfl
    | some fault =>
      rw [hfault fault hdeposit] at hstatus
      cases hstatus
  have hfilled := FileTree.filled_depositAll files outputs
  dsimp only at hshort ⊢
  rw [hwritten] at hshort ⊢
  have hagain := h.again hfiles hfilled havoids hinput hshort
  -- the second run writes what is there already
  have hstored := FileTree.stores_of_depositAll h.namedApart
    (Prod.ext rfl hdone : files.depositAll outputs = (_, none))
  have hsettled := FileTree.depositAll_of_stores hstored
  obtain ⟨-, -, hreporting'⟩ := runProgram_written program ha hstdout hagain
  rw [hreporting hdone, hreporting' (congrArg Prod.snd hsettled), hsettled]

/-! ## At the end of a detour -/

/-- A directory to go into and back, and one with an empty description. -/
private def attic : FileTree where
  nodes := [(["d"], .directory), (["in"], .directory), (["in", "a.json"], .file [91, 93])]
  workingDirectory := []

/-- The tree with typings in a new directory. -/
private def crowded (written : List UInt8) : FileTree where
  nodes := attic.nodes ++ [(["in", "contracts"], .directory),
    (["in", "contracts", "A.d.ts"], .file written)]
  workingDirectory := []

/-- What is asked for: the typings of what is at the end of a detour. -/
private def detourArguments (n : Nat) : Arguments :=
  ⟨detourText n, some "in/contracts", false, some "**/*.json", false⟩

private theorem read_detourArguments (n : Nat) :
    Arguments.read [detourText n, "-o", "in/contracts"] = .ok (detourArguments n) := by
  have hfirst : detourText n ≠ "--" ∧ (detourText n).toList.head? ≠ some '-' := by
    have hhead : (detourText n).toList.head? = some 'i' ∨
        (detourText n).toList.head? = some 'd' := by
      cases n with
      | zero => exact Or.inl (by decide)
      | succ n =>
        refine Or.inr ?_
        rw [detourText, String.toList_append]
        rfl
    refine ⟨fun heq ↦ ?_, ?_⟩
    · rw [heq] at hhead
      exact absurd hhead (by decide)
    · rcases hhead with hhead | hhead <;> rw [hhead] <;> decide
  have hword : readWord (detourText n) = .ok (.plain (detourText n)) := by
    rw [readWord]
    exact if_pos hfirst.2
  have hswitch : readWord "-o" = .ok (.switch .output false none) := by
    have hfound : switch? "-o".toList = some .output := by decide +kernel
    rw [readWord]
    dsimp only
    rw [if_neg (by decide), hfound]
    rfl
  have houtput : readWord "in/contracts" = .ok (.plain "in/contracts") := by
    rw [readWord]
    exact if_pos (by decide)
  have hrest : readWords ["-o", "in/contracts"]
      = .ok [.switch .output false none, .plain "in/contracts"] := by
    rw [readWords, if_neg (by decide), hswitch, readWords, if_neg (by decide), houtput]
    rfl
  have hwords : readWords [detourText n, "-o", "in/contracts"]
      = .ok [.plain (detourText n), .switch .output false none, .plain "in/contracts"] := by
    rw [readWords, if_neg hfirst.1, hword, hrest]
    rfl
  rw [Arguments.read, hwords]
  rfl

private theorem depositAll_attic {document : Text} {written : List UInt8}
    (hencode : document.encode = .ok written) :
    attic.depositAll [("in/contracts/A.d.ts", document)] = (crowded written, none) := by
  have hparent : (Path.read "in/contracts/A.d.ts").parent = ⟨.relative, ["in", "contracts"]⟩ := by
    decide +kernel
  have hpath : Path.read "in/contracts/A.d.ts" = ⟨.relative, ["in", "contracts", "A.d.ts"]⟩ := by
    decide +kernel
  have hmake : attic.makeDirectory ⟨.relative, ["in", "contracts"]⟩
      = .ok (attic.put ["in", "contracts"] .directory) := by
    refine FileTree.makeDirectory_eq_ok_iff.mpr ⟨_, ?_, rfl⟩
    cbv
  have hwrite : (attic.put ["in", "contracts"] .directory).write
      ⟨.relative, ["in", "contracts", "A.d.ts"]⟩ written
      = .ok ((attic.put ["in", "contracts"] .directory).put ["in", "contracts", "A.d.ts"]
          (.file written)) := by
    refine FileTree.write_of_find_none ?_
    cbv
  rw [← hparent] at hmake
  rw [← hpath] at hwrite
  exact FileTree.depositAll_of_makeDirectory hmake hencode hwrite

private theorem isPart_a_json : ∀ part ∈ ["a.json"], Path.IsPart part := by
  simp only [Path.IsPart]
  decide

private theorem search_detour {n : Nat}
    (hfind : attic.find (detourPath n []) = .ok ⟨["in"], some .directory⟩) :
    attic.search (some "**/*.json") (detourPath n []) = .ok [detourPath n ["a.json"]] := by
  have hdirectory := FileTree.hasDirectory_eq_ok_true_iff.mpr ⟨_, hfind⟩
  have hbelow : attic.pathsBelow (detourPath n []) = [] := by
    rw [FileTree.pathsBelow_of_find hfind]
    rfl
  have hmatching : attic.pathsMatching (.endingIn ".json".toList) false (detourPath n [])
      = [detourPath n ["a.json"]] := by
    have hentries : attic.entries ["in"] = [("a.json", .file [91, 93])] := by decide
    have haccepts : (Wildcard.endingIn ".json".toList).accepts "a.json".toList = true :=
      Wildcard.accepts_endingIn.mpr (by decide)
    have hchild : (detourPath n []).child "a.json" = detourPath n ["a.json"] := by
      rw [Path.child, detourPath, detourPath, List.append_nil]
    rw [FileTree.pathsMatching_of_find hfind, hentries]
    refine List.filterMap_cons_some ?_
    dsimp only
    rw [haccepts, if_pos rfl, hchild]
  refine (FileTree.search_descriptions_eq_ok_iff hdirectory).mpr ⟨?_, ?_⟩
  · rw [hbelow]
    refine List.forall_mem_singleton.mpr ⟨some .directory, ?_⟩
    rw [FileTree.look, hfind]
  · rw [hbelow, List.flatMap_cons, hmatching, List.flatMap_nil, List.append_nil]
    have hsingle : [detourPath n ["a.json"]].eraseDups = [detourPath n ["a.json"]] := by
      simp [List.eraseDups_cons]
    rw [hsingle, Path.sort, List.mergeSort_singleton]

private theorem find_attic {n : Nat} (hn : 5 * n + 9 ≤ FileTree.pathLimit) :
    attic.find (detourPath n []) = .ok ⟨["in"], some .directory⟩ := by
  have hsize : ("/".intercalate ["in"]).utf8ByteSize = 2 := by decide
  exact find_detour rfl rfl (writable_detourPath (by simp) (by decide) (by omega)) (by cbv)

private theorem generates_detour {n : Nat} (hn : 5 * n + 9 ≤ FileTree.pathLimit) :
    ∃ document written, document.encode = .ok written ∧
      (detourArguments n).Generates (fun _ ↦ false) attic [("in/contracts/A.d.ts", document)] ""
        [] := by
  have hinput : (detourArguments n).inputPath = detourPath n [] := read_detourText n
  have hsize : ("/".intercalate ["in", "a.json"]).utf8ByteSize = 9 := by decide
  have hfind := find_attic hn
  have hdescription : attic.find (detourPath n ["a.json"])
      = .ok ⟨["in", "a.json"], some (.file [91, 93])⟩ :=
    find_detour rfl rfl (writable_detourPath isPart_a_json (by decide) (by omega)) (by cbv)
  have hdirectory := FileTree.hasDirectory_eq_ok_true_iff.mpr ⟨_, hfind⟩
  have hfile := FileTree.hasFile_of_hasDirectory hdirectory
  have hlast : (detourPath n ["a.json"]).name = "a.json" := by
    rw [Path.name, detourPath, List.getLastD_concat]
  have hname : className (detourPath n ["a.json"]).stem = .ok "A" :=
    className_of_description 'a' [] (by rw [hlast]; decide) (by decide) (by decide) (by decide)
  have hsource : sourceText attic (detourPath n ["a.json"]) = .ok "[]" := by
    rw [sourceText, FileTree.read_eq_ok_iff.mpr ⟨_, hdescription⟩]
    cbv
  have hentries : descriptionEntries "[]" = .ok [] := by cbv
  have hread : (Contract.readEntries (.str "A") (detourPath n ["a.json"]).text []).result
      = .ok ⟨.str "A", [], [], [], []⟩ := rfl
  obtain ⟨document, hdocument, htypings⟩ := exists_typingsOfFile hname hsource hentries hread
  obtain ⟨written, hencode⟩ := FileTree.exists_encode_of_typings hdocument (by decide +kernel)
  have hplace : typingsPath ⟨Path.read "in/contracts", some "**/*.json", false⟩ "A"
      = "in/contracts/A.d.ts" := by decide +kernel
  have hsteps : DirectoryRun.Steps ⟨Path.read "in/contracts", some "**/*.json", false⟩ attic []
      [detourPath n ["a.json"]] [(detourPath n ["a.json"], .generated _ document [])] :=
    .cons (.generated hname List.not_mem_nil htypings) .nil
  rw [hplace] at hsteps
  have hsearch := search_detour hfind
  rw [← hinput] at hfile hdirectory hsearch
  exact ⟨document, written, hencode, .directory rfl hfile hdirectory hsearch hsteps
    (List.forall_mem_singleton.mpr rfl)⟩

private theorem runProgram_detour {n : Nat} (hn : 5 * n + 9 ≤ FileTree.pathLimit) :
    ∃ written,
      (runProgram "abi2ts" (fun _ ↦ false) [detourText n, "-o", "in/contracts"] attic).status
        = .ok 0 ∧
      (runProgram "abi2ts" (fun _ ↦ false) [detourText n, "-o", "in/contracts"] attic).files
        = crowded written := by
  obtain ⟨document, written, hencode, h⟩ := generates_detour hn
  obtain ⟨-, -, hreporting⟩ := runProgram_written "abi2ts" (read_detourArguments n) rfl h
  have hdeposit := depositAll_attic hencode
  refine ⟨written, ?_⟩
  rw [hreporting (congrArg Prod.snd hdeposit), hdeposit]
  exact ⟨rfl, rfl⟩

private theorem wellFormed_attic : attic.WellFormed := by
  have hnodes : ∀ location node, (location, node) ∈ attic.nodes →
      location = ["d"] ∨ location = ["in"] ∨ location = ["in", "a.json"] := by
    intro location node hmem
    have hkey : location ∈ attic.nodes.map Prod.fst := List.mem_map_of_mem hmem
    simpa [attic] using hkey
  refine ⟨by decide, fun location node hmem ↦ ?_, fun location node name hmem hlast ↦ ?_, rfl⟩
  · rcases hnodes location node hmem with rfl | rfl | rfl <;> rfl
  · rcases hnodes location node hmem with rfl | rfl | rfl <;>
      (obtain rfl := Option.some.inj hlast; decide)

private theorem avoidsDescriptions_detour (n : Nat) :
    (detourArguments n).AvoidsDescriptions := by
  rintro directory hdirectory
  obtain rfl := Option.some.inj hdirectory
  have hpath : Path.read "in/contracts" = ⟨.relative, ["in", "contracts"]⟩ := by decide +kernel
  rw [hpath]
  decide

private theorem pathsBelow_crowded {n : Nat} (hn : 5 * n + 9 ≤ FileTree.pathLimit)
    (written : List UInt8) :
    (crowded written).find (detourPath n []) = .ok ⟨["in"], some .directory⟩ ∧
      (crowded written).pathsBelow (detourPath n []) = [detourPath n ["contracts"]] := by
  have hsize : ("/".intercalate ["in"]).utf8ByteSize = 2 := by decide
  have hfind : (crowded written).find (detourPath n []) = .ok ⟨["in"], some .directory⟩ :=
    find_detour rfl rfl (writable_detourPath (by simp) (by decide) (by omega)) (by cbv)
  refine ⟨hfind, ?_⟩
  rw [FileTree.pathsBelow_of_find hfind, detourPath, detourPath, List.append_nil]
  rfl

private theorem isPart_contracts : ∀ part ∈ ["contracts"], Path.IsPart part := by
  simp only [Path.IsPart]
  decide

/-- **Running again can fail.** At the end of a long detour, the new directory is too far away to be
searched. -/
theorem runProgram_again_detour :
    Arguments.read [detourText 817, "-o", "in/contracts"] = .ok (detourArguments 817) ∧
    attic.WellFormed ∧ (detourArguments 817).AvoidsDescriptions ∧
    (detourArguments 817).HasPlainInput attic ∧
    (runProgram "abi2ts" (fun _ ↦ false) [detourText 817, "-o", "in/contracts"] attic).status
      = .ok 0 ∧
    (runProgram "abi2ts" (fun _ ↦ false) [detourText 817, "-o", "in/contracts"]
      (runProgram "abi2ts" (fun _ ↦ false) [detourText 817, "-o", "in/contracts"]
        attic).files).status ≠ .ok 0 := by
  have hn : 5 * 817 + 9 ≤ FileTree.pathLimit := by decide
  have hinput : (detourArguments 817).inputPath = detourPath 817 [] := read_detourText 817
  have hdirectory := FileTree.hasDirectory_eq_ok_true_iff.mpr ⟨_, find_attic hn⟩
  rw [← hinput] at hdirectory
  obtain ⟨written, hstatus, hfiles⟩ := runProgram_detour hn
  refine ⟨read_detourArguments 817, wellFormed_attic, avoidsDescriptions_detour 817,
    .directory hdirectory rfl, hstatus, ?_⟩
  rw [hfiles]
  obtain ⟨hfind, hbelow⟩ := pathsBelow_crowded hn written
  have hthere := FileTree.hasDirectory_eq_ok_true_iff.mpr ⟨_, hfind⟩
  have hsize : ("/".intercalate ["in", "contracts"]).utf8ByteSize = 12 := by decide
  have hlong : FileTree.pathLimit < (detourPath 817 ["contracts"]).text.utf8ByteSize := by
    rw [size_detourPath 817 isPart_contracts, hsize]
    decide
  have hzero := contains_detourPath 817 isPart_contracts (by decide)
  have hmem : detourPath 817 ["contracts"] ∈ (crowded written).pathsBelow (detourPath 817 []) := by
    rw [hbelow]
    exact List.mem_singleton_self _
  refine (runProgram_not_generates "abi2ts" (read_detourArguments 817) ?_).2
  intro outputs progress ds h
  cases h with
  | file hsettings hfile hname htypings =>
    rw [hinput, FileTree.hasFile_of_hasDirectory hthere] at hfile
    cases hfile
  | directory hsettings hfile hdirectory hsearch hsteps hgoes =>
    rw [hinput] at hsearch
    exact FileTree.search_descriptions_ne_ok hthere hmem hzero hlong _ hsearch

/-- At the end of a short detour, a second run changes nothing. -/
theorem runProgram_again_near :
    Arguments.read [detourText 1, "-o", "in/contracts"] = .ok (detourArguments 1) ∧
    (detourArguments 1).AvoidsDescriptions ∧ (detourArguments 1).HasPlainInput attic ∧
    (runProgram "abi2ts" (fun _ ↦ false) [detourText 1, "-o", "in/contracts"] attic).status
      = .ok 0 ∧
    (∀ q ∈ (runProgram "abi2ts" (fun _ ↦ false) [detourText 1, "-o", "in/contracts"]
        attic).files.pathsBelow (detourArguments 1).inputPath,
      q.text.utf8ByteSize ≤ FileTree.pathLimit) ∧
    runProgram "abi2ts" (fun _ ↦ false) [detourText 1, "-o", "in/contracts"]
        (runProgram "abi2ts" (fun _ ↦ false) [detourText 1, "-o", "in/contracts"] attic).files
      = runProgram "abi2ts" (fun _ ↦ false) [detourText 1, "-o", "in/contracts"] attic := by
  have hn : 5 * 1 + 9 ≤ FileTree.pathLimit := by decide
  have hinput : (detourArguments 1).inputPath = detourPath 1 [] := read_detourText 1
  have hdirectory := FileTree.hasDirectory_eq_ok_true_iff.mpr ⟨_, find_attic hn⟩
  rw [← hinput] at hdirectory
  have hplain : (detourArguments 1).HasPlainInput attic := .directory hdirectory rfl
  obtain ⟨written, hstatus, hfiles⟩ := runProgram_detour hn
  have hshort : ∀ q ∈ (runProgram "abi2ts" (fun _ ↦ false) [detourText 1, "-o", "in/contracts"]
      attic).files.pathsBelow (detourArguments 1).inputPath,
      q.text.utf8ByteSize ≤ FileTree.pathLimit := by
    have hsize : ("/".intercalate ["in", "contracts"]).utf8ByteSize = 12 := by decide
    rw [hfiles, hinput, (pathsBelow_crowded hn written).2]
    refine List.forall_mem_cons.mpr ⟨?_, nofun⟩
    rw [size_detourPath 1 isPart_contracts, hsize]
    decide
  have havoids := avoidsDescriptions_detour 1
  exact ⟨read_detourArguments 1, havoids, hplain, hstatus, hshort,
    runProgram_again "abi2ts" _ _ ⟨attic, wellFormed_attic⟩ (detourArguments 1)
      (read_detourArguments 1) rfl havoids hplain hstatus hshort⟩

end CommandLine

end AbiTypings
