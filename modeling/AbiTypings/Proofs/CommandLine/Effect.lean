import AbiTypings.Proofs.CommandLine.Run
import AbiTypings.Proofs.Contract.ClassName
import AbiTypings.Proofs.Files.WrittenPath

/-!
# What a run does to files

Whatever happens in a run, it touches nothing but the typings of the files it has read and
directories on the way to them. `Arguments.HasEffect` lists what that means for the files
afterwards, and `runProgram_hasEffect` says it of every run.

Outputs are written under the written forms of their paths. These are read back as they were,
because class names have no slashes, so each document ends up in the output directory itself; and
they stay apart there, because one class name has one place.
-/

namespace AbiTypings

variable {settings : Settings} {name raw : String}

/-! ## Places of typings -/

/-- The name of a typings file is longer than the parts that have a meaning of their own. -/
theorem typings_ne {text : String} (h : text.length < 5) : name ++ ".d.ts" ≠ text := by
  rintro rfl
  have hsuffix : ".d.ts".length = 5 := by decide
  rw [String.length_append] at h
  omega

theorem isPart_typings (h : className raw = .ok name) : Path.IsPart (name ++ ".d.ts") := by
  refine ⟨typings_ne (by decide), typings_ne (by decide), ?_⟩
  rw [String.toList_append, List.mem_append, not_or]
  exact ⟨slash_notMem_of_className h, by decide⟩

/-- Outputs for the typings of classes in a directory, which are kept under their places. -/
def OutputsIn (directory : Path) (outputs : Outputs) : Prop :=
  (outputs.map Prod.fst).Nodup ∧ ∀ output ∈ outputs, ∃ raw name, className raw = .ok name ∧
    output.1 = (directory.child (name ++ ".d.ts")).text

theorem namedApart_of_outputsIn {directory : Path} {outputs : Outputs}
    (hproper : directory.IsProper) (h : OutputsIn directory outputs) :
    FileTree.NamedApart outputs := by
  obtain ⟨hnodup, hplaces⟩ := h
  have hread : ∀ output ∈ outputs, ∃ name,
      Path.read output.1 = directory.child (name ++ ".d.ts") ∧
        output.1 = (directory.child (name ++ ".d.ts")).text := by
    intro output houtput
    obtain ⟨raw, name, hname, hplace⟩ := hplaces output houtput
    refine ⟨name, ?_, hplace⟩
    rw [hplace, Path.read_text (hproper.child (isPart_typings hname))]
  constructor
  · intro output houtput
    obtain ⟨name, hpath, -⟩ := hread output houtput
    rw [hpath, Path.name_child]
    exact ⟨List.append_ne_nil_of_right_ne_nil _ (List.cons_ne_nil _ _), typings_ne (by decide)⟩
  · refine (List.pairwise_map.mp hnodup).imp_of_mem fun {output other} houtput hother hne hname ↦ ?_
    obtain ⟨name, hpath, hplace⟩ := hread output houtput
    obtain ⟨name', hpath', hplace'⟩ := hread other hother
    rw [hpath, hpath', Path.name_child, Path.name_child] at hname
    rw [hplace, hplace', hname] at hne
    exact hne rfl

namespace CommandLine

open SessionM

variable {a : Arguments} {console : Console} {files : FileTree} {outputs : Outputs}
  {progress : Text} {ds : List Diagnostic}

/-! ## What is written -/

/-- The files that a run reads: the input, or what is found in it. -/
inductive Arguments.Processes (a : Arguments) (files : FileTree) : Path → Prop
  /-- The input is a file. -/
  | input (hfile : files.hasFile a.inputPath = .ok true) : Processes a files a.inputPath
  /-- The input is a directory in which a path is found. -/
  | found {paths : List Path} {file : Path} (hfile : files.hasFile a.inputPath = .ok false)
      (hsearch : files.search a.pattern? a.inputPath = .ok paths) (hmem : file ∈ paths) :
      Processes a files file

/-- Where typings are written, and what is written there: the typings of a file that was read, in
the place of its class. -/
theorem Arguments.Generates.exists_source (h : a.Generates console files outputs progress ds) :
    ∃ directory, a.output? = some directory ∧ (outputs.map Prod.fst).Nodup ∧
      ∀ output ∈ outputs, ∃ file name, a.Processes files file ∧ className file.stem = .ok name ∧
        (typingsOfFile files file).result = .ok output.2 ∧
        output.1 = ((Path.read directory).child (name ++ ".d.ts")).text := by
  cases h with
  | file hsettings hfile hname htypings =>
    obtain ⟨directory, hdirectory, rfl⟩ := settings_eq_ok_iff.mp hsettings
    refine ⟨directory, hdirectory, List.pairwise_singleton _ _, fun output houtput ↦ ?_⟩
    obtain rfl := List.mem_singleton.mp houtput
    exact ⟨a.inputPath, _, .input hfile, hname, congrArg Noted.result htypings, rfl⟩
  | directory hsettings hfile hdirectory hsearch hsteps hgoes =>
    obtain ⟨directory, hdirectory, rfl⟩ := settings_eq_ok_iff.mp hsettings
    have hnodup := hsteps.nodup_keys List.nodup_nil
    rw [List.nil_append] at hnodup
    refine ⟨directory, hdirectory, hnodup, fun output houtput ↦ ?_⟩
    obtain ⟨⟨file, outcome⟩, hmem, houtcome⟩ := List.mem_filterMap.mp houtput
    obtain ⟨before, hbecomes⟩ := hsteps.exists_becomes_of_mem hmem
    cases hbecomes with
    | unnamed | collided | failed => cases houtcome
    | generated hname hfree htypings =>
      obtain rfl := Option.some.inj houtcome
      exact ⟨file, _, .found hfile hsearch (hsteps.mem_of_mem hmem), hname,
        congrArg Noted.result htypings, rfl⟩

/-- What is generated does not depend on how it is handed over. -/
theorem Arguments.Generates.with_stdout (h : a.Generates console files outputs progress ds)
    (stdout : Bool) :
    ({ a with stdout := stdout } : Arguments).Generates console files outputs progress ds := by
  cases h with
  | file hsettings hfile hname htypings => exact .file hsettings hfile hname htypings
  | directory hsettings hfile hdirectory hsearch hsteps hgoes =>
    exact .directory hsettings hfile hdirectory hsearch hsteps hgoes

theorem Arguments.Generates.namedApart (h : a.Generates console files outputs progress ds) :
    FileTree.NamedApart outputs := by
  obtain ⟨directory, -, hnodup, hsources⟩ := h.exists_source
  refine namedApart_of_outputsIn (Path.isProper_read directory) ⟨hnodup, fun output houtput ↦ ?_⟩
  obtain ⟨file, name, -, hname, -, hplace⟩ := hsources output houtput
  exact ⟨file.stem, name, hname, hplace⟩

/-- What a run does to files. -/
structure Arguments.HasEffect (a : Arguments) (console : Console) (files : FileTree)
    (outcome : Outcome) : Prop where
  /-- Where something has changed there is a new directory, or the typings of a file that was read
  in the place of its class. Typings that have no bytes leave an empty file there. -/
  changed : ∀ location, outcome.files.node? location ≠ files.node? location →
    (files.node? location = none ∧ outcome.files.node? location = some .directory) ∨
      ∃ directory file name document, a.output? = some directory ∧ a.Processes files file ∧
        className file.stem = .ok name ∧ (typingsOfFile files file).result = .ok document ∧
        outcome.files.find ((Path.read directory).child (name ++ ".d.ts"))
          = .ok ⟨location, some (.file (FileTree.documentBytes document))⟩
  /-- Files with other names keep their bytes. -/
  kept : ∀ location name content, location.getLast? = some name →
    ¬".d.ts".toList <:+ name.toList → files.node? location = some (.file content) →
    outcome.files.node? location = some (.file content)
  /-- Nothing is touched if typings are printed, or if generating them fails. -/
  untouched :
    (a.stdout = true ∨ ∃ fault s, a.generate.run ⟨files, console, "", "", []⟩ = .error fault s) →
    outcome.files = files
  /-- After a run that was to write typings and has succeeded, they are all there. -/
  written : a.stdout = false → outcome.status = .ok 0 → ∃ outputs progress ds,
    a.generate.run ⟨files, console, "", "", []⟩
      = .ok (some outputs) ⟨files, console, progress, "", ds⟩ ∧
    ∀ output ∈ outputs, ∃ location bytes, output.2.encode = .ok bytes ∧
      outcome.files.find (Path.read output.1) = .ok ⟨location, some (.file bytes)⟩

theorem Arguments.HasEffect.of_files_eq {outcome : Outcome} (hfiles : outcome.files = files)
    (hstatus : a.stdout = false → outcome.status ≠ .ok 0) : a.HasEffect console files outcome where
  changed location hne := absurd (by rw [hfiles]) hne
  kept location name content _ _ hnode := by rw [hfiles, hnode]
  untouched _ := hfiles
  written hstdout hok := absurd hok (hstatus hstdout)

theorem Arguments.Generates.changed {t : FileTree} {location : Location}
    (h : a.Generates console files outputs progress ds) (hfilled : FileTree.Filled outputs files t)
    (hne : t.node? location ≠ files.node? location) :
    (files.node? location = none ∧ t.node? location = some .directory) ∨
      ∃ directory file name document, a.output? = some directory ∧ a.Processes files file ∧
        className file.stem = .ok name ∧ (typingsOfFile files file).result = .ok document ∧
        t.find ((Path.read directory).child (name ++ ".d.ts"))
          = .ok ⟨location, some (.file (FileTree.documentBytes document))⟩ := by
  obtain ⟨directory, hdirectory, -, hsources⟩ := h.exists_source
  refine (hfilled.changed hne).imp_right fun ⟨output, houtput, hfind⟩ ↦ ?_
  obtain ⟨file, name, hprocesses, hname, hdocument, hplace⟩ := hsources output houtput
  rw [hplace, Path.read_text ((Path.isProper_read directory).child (isPart_typings hname))] at hfind
  exact ⟨directory, file, name, output.2, hdirectory, hprocesses, hname, hdocument, hfind⟩

/-- Writing only touches files whose names end like those of typings. -/
theorem Arguments.Generates.kept {t : FileTree} {location : Location} {name : String}
    {content : List UInt8} (h : a.Generates console files outputs progress ds)
    (hfilled : FileTree.Filled outputs files t) (hlast : location.getLast? = some name)
    (hname : ¬".d.ts".toList <:+ name.toList)
    (hnode : files.node? location = some (.file content)) :
    t.node? location = some (.file content) := by
  refine Decidable.byContradiction fun hne ↦ ?_
  rw [← hnode] at hne
  -- a change at a file is no new directory, and the typings there would give it their name
  rcases h.changed hfilled hne with
    ⟨hnone, -⟩ | ⟨directory, file, written, document, -, -, hwritten, -, hfind⟩
  · rw [hnode] at hnone
    cases hnone
  · have hlast' := FileTree.getLast?_of_find hfind
      (List.append_ne_nil_of_right_ne_nil _ (List.cons_ne_nil _ _))
      (by rw [Path.name_child]; exact typings_ne (by decide))
    rw [hlast, Path.name_child] at hlast'
    obtain rfl := Option.some.inj hlast'
    rw [String.toList_append] at hname
    exact hname (List.suffix_append _ _)

theorem Arguments.Generates.hasEffect (program : String) {arguments : List String}
    (ha : Arguments.read arguments = .ok a) (h : a.Generates console files outputs progress ds) :
    a.HasEffect console files (runProgram program console arguments files) := by
  cases hstdout : a.stdout with
  | true =>
    exact .of_files_eq (runProgram_stdout program ha hstdout h).1
      (fun hfalse ↦ absurd (hstdout.symm.trans hfalse) (by decide))
  | false =>
    obtain ⟨hfiles, hfault, -⟩ := runProgram_written program ha hstdout h
    have hfilled := FileTree.filled_depositAll files outputs
    refine ⟨?_, ?_, ?_, fun _ hok ↦ ⟨outputs, progress, ds, h.run, ?_⟩⟩
    · rw [hfiles]
      exact fun location hne ↦ h.changed hfilled hne
    · rw [hfiles]
      exact fun location name content hlast hname hnode ↦ h.kept hfilled hlast hname hnode
    · rintro (htrue | ⟨fault, s, herror⟩)
      · exact absurd (hstdout.symm.trans htrue) (by decide)
      · rw [h.run] at herror
        cases herror
    · -- status zero tells that no document was refused
      cases hdeposit : (files.depositAll outputs).2 with
      | some fault =>
        rw [hfault fault hdeposit] at hok
        cases hok
      | none =>
        have hstored := FileTree.stores_of_depositAll h.namedApart
          (Prod.ext rfl hdeposit : files.depositAll outputs = (_, none))
        rw [hfiles]
        intro output houtput
        obtain ⟨-, ⟨location, hfind⟩, hencode⟩ := hstored output houtput
        exact ⟨location, _, hencode, hfind⟩

/-- **Effect.** Whatever arguments a run accepts and however it ends, what it does to files is what
`Arguments.HasEffect` lists. Asked to print the same typings, a run that succeeds prints them behind
the progress, in the same order. -/
theorem runProgram_hasEffect (program : String) (console : Console) (arguments : List String)
    (files : FileTree) (a : Arguments) (ha : Arguments.read arguments = .ok a) :
    a.HasEffect console files (runProgram program console arguments files) ∧
    ∀ arguments', Arguments.read arguments' = .ok { a with stdout := true } →
      (runProgram program console arguments' files).status = .ok 0 →
      ∃ outputs progress ds,
        a.generate.run ⟨files, console, "", "", []⟩
          = .ok (some outputs) ⟨files, console, progress, "", ds⟩ ∧
        (runProgram program console arguments' files).output = progress ++ shown outputs := by
  by_cases hgenerates : ∃ outputs progress ds, a.Generates console files outputs progress ds
  · obtain ⟨outputs, progress, ds, h⟩ := hgenerates
    refine ⟨h.hasEffect program ha, fun arguments' ha' hok ↦ ⟨outputs, progress, ds, h.run, ?_⟩⟩
    obtain ⟨-, hshows, hrefused⟩ := runProgram_stdout program ha' rfl (h.with_stdout true)
    rw [hshows (Classical.byContradiction fun hnot ↦ hrefused hnot hok)]
    rfl
  -- what is not generated is not handed over, in either way
  · have hnone : ∀ outputs progress ds, ¬a.Generates console files outputs progress ds :=
      fun outputs progress ds h ↦ hgenerates ⟨outputs, progress, ds, h⟩
    obtain ⟨hfiles, hstatus⟩ := runProgram_not_generates program ha hnone
    refine ⟨.of_files_eq hfiles fun _ ↦ hstatus, fun arguments' ha' hok ↦ ?_⟩
    have hnone' : ∀ outputs progress ds,
        ¬({ a with stdout := true } : Arguments).Generates console files outputs progress ds :=
      fun outputs progress ds h ↦ hnone outputs progress ds (h.with_stdout a.stdout)
    exact absurd hok (runProgram_not_generates program ha' hnone').2

/-- A directory with an empty description and the typings of an earlier run beside it. -/
private def drawer : FileTree where
  nodes :=
    [(["in"], .directory), (["in", "token.json"], .file [91, 93]),
      (["in", "Token.d.ts"], .file [47, 47])]
  workingDirectory := []

/-- Typings that are written beside the description leave it as it is. -/
theorem runProgram_hasEffect_drawer :
    Arguments.read ["in", "-o", "in"]
      = .ok ⟨"in", some "in", false, some "**/*.json", false⟩ ∧
    (⟨"in", some "in", false, some "**/*.json", false⟩ : Arguments).HasEffect (fun _ ↦ false) drawer
      (runProgram "abi2ts" (fun _ ↦ false) ["in", "-o", "in"] drawer) ∧
    (runProgram "abi2ts" (fun _ ↦ false) ["in", "-o", "in"] drawer).files.node? ["in", "token.json"]
      = some (.file [91, 93]) := by
  have hread : Arguments.read ["in", "-o", "in"]
      = .ok ⟨"in", some "in", false, some "**/*.json", false⟩ := by
    cbv
  obtain ⟨heffect, -⟩ := runProgram_hasEffect "abi2ts" (fun _ ↦ false) ["in", "-o", "in"] drawer _
    hread
  exact ⟨hread, heffect, heffect.kept _ "token.json" _ rfl (by decide) rfl⟩

end CommandLine

end AbiTypings
