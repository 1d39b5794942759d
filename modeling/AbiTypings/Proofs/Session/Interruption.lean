import AbiTypings.Proofs.Files.Growth
import AbiTypings.Proofs.Files.SuffixSearch
import AbiTypings.Proofs.Session.Directory

/-!
# What stops a run over a directory

A search finds directories as well as files, and a directory cannot be opened. What the file system
refuses is not contained, so a run over a directory ends at the first path that is opened and is no
file, and everything generated before it is lost. A fault that is contained can end a run as well:
it is reported on standard output, and if the report has halves that are refused there, nothing
contains the fault of reporting.

Not every path is opened. Without a class name, or with the place of an earlier document, a path is
reported before anybody looks at what it leads to. `Blocks` and `Unreportable` say what is left, and
a run returns exactly if none of its paths is of one of these kinds
(`generateDirectory_returns_iff`).
-/

namespace AbiTypings

variable {settings : Settings} {files : FileTree} {before : Outputs} {file : Path}
  {outcome : FileOutcome} {fault : Fault} {notes : List Diagnostic} {console : Console}

/-! ## Paths that cannot be opened -/

/-- A path that is opened and is refused: it has a class name, the place of its typings is free, and
the file system does not give a file for it. -/
def Blocks (settings : Settings) (files : FileTree) (before : Outputs) (file : Path) : Prop :=
  ∃ name refusal, className file.stem = .ok name ∧
    typingsPath settings name ∉ before.map Prod.fst ∧
    files.read file = .error (.file refusal file.text)

theorem FileTree.exists_refusal_of_read (h : files.read file = .error fault)
    (hfault : fault.isContained = false) : ∃ refusal, fault = .file refusal file.text := by
  rw [read] at h
  cases hfind : files.find file with
  | ok place =>
    rw [hfind] at h
    dsimp only [bind, Except.bind] at h
    split at h
    · cases h
    · exact ⟨_, (Except.error.inj h).symm⟩
    · exact ⟨_, (Except.error.inj h).symm⟩
  | error fault' =>
    rw [hfind] at h
    obtain rfl := Except.error.inj h
    rcases find_eq_error hfind with ⟨rfl, -⟩ | hrefusal
    · cases hfault
    · exact hrefusal

theorem FileTree.read_of_directory {location : Location}
    (h : files.find file = .ok ⟨location, some .directory⟩) :
    files.read file = .error (.file .isDirectory file.text) := by
  rw [read, h]
  rfl

theorem typingsOfFile_of_read_error (h : files.read file = .error fault) :
    typingsOfFile files file = ⟨[], .error fault⟩ := by
  rw [typingsOfFile, sourceText, h]
  rfl

/-- Only opening a file can fail in a way that is not contained. -/
theorem read_of_typingsOfFile (h : typingsOfFile files file = ⟨notes, .error fault⟩)
    (hfault : fault.isContained = false) : files.read file = .error fault := by
  cases hread : files.read file with
  | ok bytes =>
    have hfile : files.hasFile file = .ok true := by
      obtain ⟨location, hfind⟩ := FileTree.read_eq_ok_iff.mp hread
      exact FileTree.hasFile_eq_ok_true_iff.mpr ⟨location, bytes, hfind⟩
    have hcontained := (yields_typingsOfFile hfile).of_error (congrArg Noted.result h)
    exact absurd (hfault.symm.trans hcontained) Bool.false_ne_true
  | error fault' =>
    rw [typingsOfFile_of_read_error hread] at h
    exact congrArg Except.error (Except.error.inj (congrArg Noted.result h))

/-- A path that is opened and fails, and whose report is refused: it has a class name, the place of
its typings is free, and the fault of its typings is one that is reported, with halves that standard
output does not take. -/
def Unreportable (settings : Settings) (console : Console) (files : FileTree) (before : Outputs)
    (file : Path) : Prop :=
  ∃ name fault, className file.stem = .ok name ∧
    typingsPath settings name ∉ before.map Prod.fst ∧
    (typingsOfFile files file).result = .error fault ∧ fault.isContained = true ∧
    ¬console.Takes fault.message

/-- **What stops a run.** A path that stops a run blocks, and the fault is the refusal of it, or it
cannot be reported. -/
theorem FileOutcome.Becomes.cases_of_stop (h : outcome.Becomes settings files before file)
    (hstop : outcome.stop? console file = some fault) :
    (Blocks settings files before file ∧ ∃ refusal, fault = .file refusal file.text ∧
      files.read file = .error fault) ∨
    (Unreportable settings console files before file ∧ ∃ refused, fault = .lone refused) := by
  cases h with
  | @unnamed fault' hname =>
    rcases stop?_failed_eq_some hstop with ⟨hfault, -⟩ | ⟨refused, hrefused, -, -⟩
    · have hcontained := (yields_className file.stem).of_error hname
      exact absurd (hfault.symm.trans hcontained) Bool.false_ne_true
    · -- a report on a name has no halves
      exact absurd (takes_message_of_className console hname) (not_takes_of_refused hrefused)
  | @failed name fault' notes hname hfree htypings =>
    rcases stop?_failed_eq_some hstop with ⟨hfault, rfl⟩ | ⟨refused, hrefused, hfault, rfl⟩
    · have hread := read_of_typingsOfFile htypings hfault
      obtain ⟨refusal, rfl⟩ := FileTree.exists_refusal_of_read hread hfault
      exact Or.inl ⟨⟨name, refusal, hname, hfree, hread⟩, refusal, rfl, hread⟩
    · exact Or.inr ⟨⟨name, fault', hname, hfree, congrArg Noted.result htypings, hfault,
        not_takes_of_refused hrefused⟩, refused, rfl⟩
  | collided | generated => cases hstop

theorem FileOutcome.Becomes.eq_failed (h : outcome.Becomes settings files before file)
    {name : String} (hname : className file.stem = .ok name)
    (hfree : typingsPath settings name ∉ before.map Prod.fst)
    (hfault : (typingsOfFile files file).result = .error fault) :
    outcome = .failed fault (typingsOfFile files file).notes := by
  cases h with
  | unnamed hname' =>
    rw [hname] at hname'
    cases hname'
  | collided hname' htaken =>
    obtain rfl := Except.ok.inj (hname.symm.trans hname')
    exact absurd htaken hfree
  | failed hname' hfree' htypings =>
    rw [htypings] at hfault ⊢
    rw [Except.error.inj hfault]
  | generated hname' hfree' htypings =>
    rw [htypings] at hfault
    cases hfault

theorem FileOutcome.Becomes.stop?_eq_none_iff (h : outcome.Becomes settings files before file) :
    outcome.stop? console file = none ↔
      ¬Blocks settings files before file ∧ ¬Unreportable settings console files before file := by
  constructor
  · intro hgoes
    constructor
    · rintro ⟨name, refusal, hname, hfree, hread⟩
      have hresult := congrArg Noted.result (typingsOfFile_of_read_error hread)
      rw [h.eq_failed hname hfree hresult, stop?_failed_eq_none_iff] at hgoes
      cases hgoes.1
    · rintro ⟨name, fault, hname, hfree, hresult, -, hrefused⟩
      rw [h.eq_failed hname hfree hresult, stop?_failed_eq_none_iff] at hgoes
      exact hrefused hgoes.2
  · rintro ⟨hblocks, hreport⟩
    refine Option.eq_none_iff_forall_ne_some.mpr fun fault hstop ↦ ?_
    rcases h.cases_of_stop hstop with ⟨hcase, -⟩ | ⟨hcase, -⟩
    · exact hblocks hcase
    · exact hreport hcase

/-! ## The whole run -/

namespace DirectoryRun

variable {paths : List Path} {first after run : DirectoryRun} {s : Session}

theorem Steps.mem_outputs (h : run.Steps settings files [] paths)
    (hrun : run = first ++ (file, outcome) :: after) {name : String} {document : Text}
    (hname : className file.stem = .ok name)
    (hfree : typingsPath settings name ∉ first.outputs.map Prod.fst)
    (hdocument : (typingsOfFile files file).result = .ok document) :
    (typingsPath settings name, document) ∈ run.outputs := by
  have hmem : (file, outcome) ∈ run := hrun ▸ List.mem_append_right _ List.mem_cons_self
  refine List.mem_filterMap.mpr ⟨(file, outcome), hmem, ?_⟩
  cases h.becomes_of_eq hrun with
  | unnamed hname' =>
    rw [hname] at hname'
    cases hname'
  | collided hname' htaken =>
    obtain rfl := Except.ok.inj (hname.symm.trans hname')
    exact absurd htaken hfree
  | failed hname' hfree' htypings =>
    rw [htypings] at hdocument
    cases hdocument
  | generated hname' hfree' htypings =>
    rw [htypings] at hdocument
    obtain rfl := Except.ok.inj (hname.symm.trans hname')
    obtain rfl := Except.ok.inj hdocument
    rfl

/-- A run goes on exactly as long as its paths can be opened or reported. -/
theorem Steps.goes_iff (h : run.Steps settings files [] paths) :
    run.Goes console ↔ ∀ first file outcome after, run = first ++ (file, outcome) :: after →
      ¬Blocks settings files (outputs first) file ∧
        ¬Unreportable settings console files (outputs first) file := by
  constructor
  · intro hgoes first file outcome after hrun
    refine (h.becomes_of_eq hrun).stop?_eq_none_iff.mp (hgoes (file, outcome) ?_)
    exact hrun ▸ List.mem_append_right _ List.mem_cons_self
  · rintro hfree ⟨file, outcome⟩ hentry
    obtain ⟨first, after, hrun⟩ := List.append_of_mem hentry
    exact (h.becomes_of_eq hrun).stop?_eq_none_iff.mpr (hfree first file outcome after hrun)

end DirectoryRun

/-- **Interruption.** A run over a directory fails where its search does. What is found has an
account, and the run returns exactly if no path blocks when its turn comes and none fails with a
report that standard output refuses. Then every path with typings of its own is among the outputs,
unless an earlier one was generated for its place; and otherwise the run ends with the refusal of a
path that was found, or with that of a report. -/
theorem generateDirectory_returns_iff (settings : Settings) (directory : Path) (s : Session) :
    (∀ fault, s.files.search settings.pattern? directory = .error fault →
      (SessionM.generateDirectory settings directory).run s = .error fault s) ∧
    ∀ paths, s.files.search settings.pattern? directory = .ok paths →
      ∃ run : DirectoryRun, run.Steps settings s.files [] paths ∧
        ((∃ outputs s', (SessionM.generateDirectory settings directory).run s = .ok outputs s') ↔
          ∀ first file outcome after, run = first ++ (file, outcome) :: after →
            ¬Blocks settings s.files (DirectoryRun.outputs first) file ∧
              ¬Unreportable settings s.console s.files (DirectoryRun.outputs first) file) ∧
        (∀ outputs s', (SessionM.generateDirectory settings directory).run s = .ok outputs s' →
          ∀ first file outcome after, run = first ++ (file, outcome) :: after →
            ∀ name document, className file.stem = .ok name →
              typingsPath settings name ∉ (DirectoryRun.outputs first).map Prod.fst →
              (typingsOfFile s.files file).result = .ok document →
              (typingsPath settings name, document) ∈ outputs) ∧
        ∀ fault s', (SessionM.generateDirectory settings directory).run s = .error fault s' →
          ∃ first file outcome after, run = first ++ (file, outcome) :: after ∧ file ∈ paths ∧
            ((∃ refusal, fault = .file refusal file.text ∧ s.files.read file = .error fault) ∨
              (Unreportable settings s.console s.files (DirectoryRun.outputs first) file ∧
                ∃ refused, fault = .lone refused)) := by
  have hdirectory := run_generateDirectory settings directory s
  refine ⟨fun fault hsearch ↦ ?_, fun paths hsearch ↦ ?_⟩
  · rw [hdirectory, hsearch]
  obtain ⟨run, hsteps⟩ := DirectoryRun.exists_steps settings s.files [] paths
  refine ⟨run, hsteps, ?_⟩
  rw [← hsteps.goes_iff]
  -- either the account has an entry for every path, or it is cut at the first one that stops
  rcases run.goes_or_exists_stop s.console with
    hgoes | ⟨first, after, file, outcome, fault, hrun, hgoes, hstop⟩
  · have hlogs : _ = SessionM.ending (.ok run.outputs) _ :=
      logs_generateDirectory hsearch hsteps hgoes
    rw [hlogs]
    refine ⟨⟨fun _ ↦ hgoes, fun _ ↦ ⟨_, _, rfl⟩⟩, ?_, nofun⟩
    rintro outputs s' hok first file outcome after hrun name document hname hfree hdocument
    injection hok with houtputs
    rw [← houtputs]
    exact hsteps.mem_outputs hrun hname hfree hdocument
  · subst hrun
    have hlogs : _ = SessionM.ending (.error fault) _ :=
      logs_generateDirectory_of_stop hsearch hsteps hgoes hstop
    rw [hlogs]
    have hmem : (file, outcome) ∈ first ++ (file, outcome) :: after :=
      List.mem_append_right _ List.mem_cons_self
    refine ⟨⟨fun ⟨_, _, hok⟩ ↦ (nomatch hok), fun hall ↦ ?_⟩, nofun, fun fault' s' herror ↦ ?_⟩
    · rw [hall _ hmem] at hstop
      cases hstop
    · injection herror with hsame
      rw [← hsame]
      refine ⟨first, file, outcome, after, rfl, hsteps.mem_of_mem hmem, ?_⟩
      exact ((hsteps.becomes_of_eq rfl).cases_of_stop hstop).imp_left And.right

/-- A directory whose own name matches, in front of a file with typings. -/
private def workbench : FileTree where
  nodes :=
    [(["in"], .directory), (["in", "build.json"], .directory),
      (["in", "token.json"], .file [91, 93])]
  workingDirectory := []

private def build : Path := ⟨.relative, ["in", "build.json"]⟩

private def token : Path := ⟨.relative, ["in", "token.json"]⟩

private theorem search_workbench :
    workbench.search (some "**/*.json") ⟨.relative, ["in"]⟩ = .ok [build, token] := by
  have hthere : workbench.hasDirectory ⟨.relative, ["in"]⟩ = .ok true := by cbv
  have hfound : workbench.searchFrom false descriptionSteps ⟨.relative, ["in"]⟩
      = .ok [build, token] := by
    cbv
  have hsort : Path.sort [build, token] = [build, token] :=
    List.mergeSort_of_pairwise (by decide)
  rw [FileTree.search_descriptions hthere, hfound]
  exact congrArg Except.ok hsort

private theorem className_build : className build.stem = .ok "Build" :=
  className_of_description 'b' "uild".toList (by decide) (by decide) (by decide) (by decide)

private theorem read_build : workbench.read build = .error (.file .isDirectory build.text) := by
  have hfind : workbench.find build = .ok ⟨["in", "build.json"], some .directory⟩ := by cbv
  exact FileTree.read_of_directory hfind

/-- The directory blocks, so the run does not return. -/
theorem generateDirectory_returns_iff_workbench :
    workbench.search (some "**/*.json") ⟨.relative, ["in"]⟩ = .ok [build, token] ∧
    ¬∃ outputs s', (SessionM.generateDirectory ⟨⟨.relative, ["types"]⟩, some "**/*.json", false⟩
      ⟨.relative, ["in"]⟩).run ⟨workbench, fun _ ↦ true, "", "", []⟩ = .ok outputs s' := by
  refine ⟨search_workbench, fun hreturns ↦ ?_⟩
  obtain ⟨-, hfound⟩ := generateDirectory_returns_iff
    ⟨⟨.relative, ["types"]⟩, some "**/*.json", false⟩ ⟨.relative, ["in"]⟩
    ⟨workbench, fun _ ↦ true, "", "", []⟩
  obtain ⟨run, hsteps, hiff, -⟩ := hfound _ search_workbench
  cases hsteps with
  | @cons _ _ outcome _ run hbecomes hrest =>
    obtain ⟨hblocks, -⟩ := hiff.mp hreturns [] build outcome run rfl
    exact hblocks ⟨"Build", .isDirectory, className_build, List.not_mem_nil, read_build⟩

/-- **A directory stops a run.** It is found like a file, opening it ends the run, and the typings
of the file after it are never generated. -/
theorem generateDirectory_workbench :
    workbench.search (some "**/*.json") ⟨.relative, ["in"]⟩ = .ok [build, token] ∧
    HasTypings workbench token ∧
    (SessionM.generateDirectory ⟨⟨.relative, ["types"]⟩, some "**/*.json", false⟩
        ⟨.relative, ["in"]⟩).run ⟨workbench, fun _ ↦ true, "", "", []⟩
      = .error (.file .isDirectory "in/build.json") ⟨workbench, fun _ ↦ true, "", "", []⟩ := by
  refine ⟨search_workbench, ?_, ?_⟩
  · have hname : className token.stem = .ok "Token" :=
      className_of_description 't' "oken".toList (by decide) (by decide) (by decide) (by decide)
    have hsource : sourceText workbench token = .ok "[]" := by cbv
    have hentries : descriptionEntries "[]" = .ok [] := by cbv
    obtain ⟨document, -, hdocument⟩ := exists_typingsOfFile hname hsource hentries rfl
    exact hasTypings_iff.mpr ⟨document, congrArg Noted.result hdocument⟩
  · have htext : build.text = "in/build.json" := by cbv
    have hbecomes : (FileOutcome.failed (.file .isDirectory build.text) []).Becomes
        ⟨⟨.relative, ["types"]⟩, some "**/*.json", false⟩ workbench [] build :=
      .failed className_build List.not_mem_nil (typingsOfFile_of_read_error read_build)
    rw [run_generateDirectory, search_workbench, ← htext]
    exact (SessionM.logs_of_becomes_stop (s := ⟨workbench, fun _ ↦ true, "", "", []⟩) hbecomes
      rfl).bind_error _

end AbiTypings
