import AbiTypings.Proofs.Contract.ClassName
import AbiTypings.Proofs.Contract.Partition
import AbiTypings.Proofs.Files.Detour
import AbiTypings.Proofs.Files.SuffixSearch
import AbiTypings.Proofs.Session.FileOutcome

/-!
# Runs over a directory

A run goes through the files of a directory with nothing in its hands but the outputs so far. Its
account is a list of outcomes, one for each file (`DirectoryRun`); what the run gives, prints and
notes is read off that list. The invariant carried along is that the outputs so far are those of the
outcomes so far, so a file meets exactly the files before it that were generated, and never one that
failed.

`IsDirectoryRun` says which account is the right one without following the loop: it asks of every
place in the list what came before it, and of every file what it would be alone.
-/

namespace AbiTypings

/-! ## Accounts -/

/-- The files of a directory in order, each with what becomes of it. -/
abbrev DirectoryRun := List (Path × FileOutcome)

namespace DirectoryRun

def outputs (run : DirectoryRun) : Outputs := run.filterMap fun entry ↦ entry.2.output?

def diagnostics (run : DirectoryRun) : List Diagnostic :=
  run.flatMap fun (file, outcome) ↦ outcome.diagnostics file

def progress (run : DirectoryRun) : Text :=
  Text.join (run.map fun (file, outcome) ↦ outcome.progress file)

variable (file : Path) (outcome : FileOutcome) (run : DirectoryRun)

theorem outputs_cons :
    outputs ((file, outcome) :: run) = outcome.output?.toList ++ outputs run := by
  cases houtput : outcome.output? with
  | none => exact List.filterMap_cons_none houtput
  | some output => exact List.filterMap_cons_some houtput

theorem diagnostics_cons :
    diagnostics ((file, outcome) :: run) = outcome.diagnostics file ++ diagnostics run :=
  List.flatMap_cons

theorem progress_cons :
    progress ((file, outcome) :: run) = outcome.progress file ++ progress run := by
  rw [progress, List.map_cons, Text.join_cons, progress]

theorem mem_keys_outputs_iff {path : String} : path ∈ run.outputs.map Prod.fst ↔
    ∃ file text notes, (file, FileOutcome.generated path text notes) ∈ run := by
  rw [outputs, List.mem_map]
  constructor
  · rintro ⟨⟨path', text⟩, hmem, rfl⟩
    obtain ⟨⟨file, outcome⟩, hrun, houtput⟩ := List.mem_filterMap.mp hmem
    cases outcome with
    | generated path'' text' notes =>
      obtain ⟨rfl, rfl⟩ := Prod.mk.inj (Option.some.inj houtput)
      exact ⟨file, text', notes, hrun⟩
    | failed fault notes => cases houtput
    | collided path'' => cases houtput
  · rintro ⟨file, text, notes, hrun⟩
    exact ⟨(path, text), List.mem_filterMap.mpr ⟨_, hrun, rfl⟩, rfl⟩

end DirectoryRun

/-- A run goes on from earlier outputs through files. -/
inductive DirectoryRun.Steps (settings : Settings) (files : FileTree) :
    Outputs → List Path → DirectoryRun → Prop
  /-- There are no files left. -/
  | nil {before : Outputs} : Steps settings files before [] []
  /-- A file has its outcome, and the run goes on with its output. -/
  | cons {before : Outputs} {file : Path} {outcome : FileOutcome} {rest : List Path}
      {run : DirectoryRun} (hfile : outcome.Becomes settings files before file)
      (hrest : Steps settings files (before ++ outcome.output?.toList) rest run) :
      Steps settings files before (file :: rest) ((file, outcome) :: run)

/-! ## The loop -/

namespace DirectoryRun

variable {settings : Settings} {rest : List Path} {before : Outputs} {run : DirectoryRun}
  {s : Session}

/-- Whatever the paths lead to, there is an account of them all. -/
theorem exists_steps (settings : Settings) (files : FileTree) (before : Outputs)
    (rest : List Path) : ∃ run : DirectoryRun, run.Steps settings files before rest := by
  induction rest generalizing before with
  | nil => exact ⟨[], .nil⟩
  | cons file rest ih =>
    obtain ⟨outcome, hbecomes⟩ := FileOutcome.exists_becomes settings files before file
    obtain ⟨run, hsteps⟩ := ih (before ++ outcome.output?.toList)
    exact ⟨(file, outcome) :: run, .cons hbecomes hsteps⟩

/-- No fault ends a run. -/
def Goes (console : Console) (run : DirectoryRun) : Prop :=
  ∀ entry ∈ run, entry.2.stop? console entry.1 = none

theorem goes_cons_iff {console : Console} {entry : Path × FileOutcome} :
    Goes console (entry :: run) ↔ entry.2.stop? console entry.1 = none ∧ Goes console run :=
  List.forall_mem_cons

/-- Files that are there stop a run at most with the reports on them. -/
theorem Steps.goes_of_hasFile {files : FileTree} {console : Console}
    (h : run.Steps settings files before rest)
    (hfiles : ∀ file ∈ rest, files.hasFile file = .ok true)
    (htakes : ∀ file fault notes, (file, .failed fault notes) ∈ run →
      console.Takes fault.message) : Goes console run := by
  induction h with
  | nil => exact fun entry hentry ↦ absurd hentry List.not_mem_nil
  | cons hbecomes hrest ih =>
    obtain ⟨hfile, hfiles⟩ := List.forall_mem_cons.mp hfiles
    refine goes_cons_iff.mpr ⟨hbecomes.stop?_eq_none hfile fun fault notes hfailed ↦ ?_,
      ih hfiles fun file fault notes hmem ↦ htakes file fault notes (List.mem_cons_of_mem _ hmem)⟩
    exact htakes _ fault notes (List.mem_cons.mpr (Or.inl (by rw [hfailed])))

open SessionM in
/-- **The whole run.** As long as no fault stops it, a run goes on as its account says. -/
theorem Steps.logs (h : run.Steps settings s.files before rest)
    (hgoes : run.Goes s.console) :
    Logs (rest.foldlM (fun outputs file ↦
        containing file outputs (generateNext settings outputs file)) before)
      s run.progress ⟨run.diagnostics, .ok (before ++ run.outputs)⟩ := by
  induction run generalizing s before rest with
  | nil =>
    cases h with
    | nil =>
      rw [outputs, List.filterMap_nil, List.append_nil]
      exact logs_pure before
  | cons entry run ih =>
    obtain ⟨file, outcome⟩ := entry
    obtain ⟨hfirst, hothers⟩ := goes_cons_iff.mp hgoes
    cases h with
    | cons hbecomes hrest =>
      have hlogs := logs_of_becomes hbecomes hfirst
      -- Logging leaves the files alone, so the account of the rest is still right.
      have hrun := ih (s := s.logged (outcome.progress file) (outcome.diagnostics file)) hrest
        hothers
      rw [progress_cons, diagnostics_cons, outputs_cons, ← List.append_assoc, List.foldlM_cons]
      exact hlogs.bind_ok hrun

open SessionM in
/-- A fault that stops a run is its end, and what was logged before it remains. -/
theorem Steps.logs_of_stop {first after : DirectoryRun} {file : Path} {outcome : FileOutcome}
    {fault : Fault} (h : (first ++ (file, outcome) :: after).Steps settings s.files before rest)
    (hgoes : first.Goes s.console) (hstop : outcome.stop? s.console file = some fault) :
    Logs (rest.foldlM (fun outputs file ↦
        containing file outputs (generateNext settings outputs file)) before)
      s first.progress ⟨first.diagnostics ++ outcome.notes, .error fault⟩ := by
  induction first generalizing s before rest with
  | nil =>
    cases h with
    | cons hbecomes hrest =>
      rw [List.foldlM_cons]
      exact (logs_of_becomes_stop hbecomes hstop).bind_error _
  | cons entry first ih =>
    obtain ⟨file', outcome'⟩ := entry
    obtain ⟨hfirst, hothers⟩ := goes_cons_iff.mp hgoes
    cases h with
    | cons hbecomes hrest =>
      have hlogs := logs_of_becomes hbecomes hfirst
      have hrun := ih (s := s.logged (outcome'.progress file') (outcome'.diagnostics file')) hrest
        hothers hstop
      rw [progress_cons, diagnostics_cons, List.append_assoc, List.foldlM_cons]
      exact hlogs.bind_ok hrun

theorem goes_or_exists_stop (console : Console) (run : DirectoryRun) : Goes console run ∨
    ∃ (first after : DirectoryRun) (file : Path) (outcome : FileOutcome) (fault : Fault),
      run = first ++ (file, outcome) :: after ∧ Goes console first ∧
        outcome.stop? console file = some fault := by
  induction run with
  | nil => exact Or.inl fun entry hentry ↦ absurd hentry List.not_mem_nil
  | cons entry run ih =>
    obtain ⟨file, outcome⟩ := entry
    cases hstop : outcome.stop? console file with
    | some fault =>
      exact Or.inr ⟨[], run, file, outcome, fault, rfl,
        fun entry hentry ↦ absurd hentry List.not_mem_nil, hstop⟩
    | none =>
      rcases ih with hgoes | ⟨first, after, file', outcome', fault, rfl, hgoes, hfault⟩
      · exact Or.inl (goes_cons_iff.mpr ⟨hstop, hgoes⟩)
      · exact Or.inr ⟨(file, outcome) :: first, after, file', outcome', fault, rfl,
          goes_cons_iff.mpr ⟨hstop, hgoes⟩, hfault⟩

end DirectoryRun

/-! ## What came before -/

namespace DirectoryRun.Steps

variable {settings : Settings} {files : FileTree} {before : Outputs} {rest : List Path}
  {run : DirectoryRun}

theorem map_fst (h : run.Steps settings files before rest) : run.map Prod.fst = rest := by
  induction h with
  | nil => rfl
  | cons hfile hrest ih => rw [List.map_cons, ih]

/-- **What a file meets.** Every file of a run meets the outputs from before the run and those of
the files before it. -/
theorem becomes_of_append {first after : DirectoryRun} {file : Path} {outcome : FileOutcome}
    (h : (first ++ (file, outcome) :: after).Steps settings files before rest) :
    outcome.Becomes settings files (before ++ first.outputs) file := by
  induction first generalizing before rest with
  | nil =>
    cases h with
    | cons hfile hrest =>
      rw [DirectoryRun.outputs, List.filterMap_nil, List.append_nil]
      exact hfile
  | cons entry first ih =>
    obtain ⟨file', outcome'⟩ := entry
    cases h with
    | cons hfile hrest =>
      have hbecomes := ih hrest
      rwa [List.append_assoc, ← DirectoryRun.outputs_cons file' outcome'] at hbecomes

theorem nodup_keys (h : run.Steps settings files before rest)
    (hbefore : (before.map Prod.fst).Nodup) : ((before ++ run.outputs).map Prod.fst).Nodup := by
  induction h with
  | nil =>
    rw [DirectoryRun.outputs, List.filterMap_nil, List.append_nil]
    exact hbefore
  | @cons before file outcome rest run hfile hrest ih =>
    rw [DirectoryRun.outputs_cons, ← List.append_assoc]
    refine ih ?_
    cases hfile with
    | generated hname hfree htypings =>
      rw [List.map_append]
      refine List.nodup_append.mpr ⟨hbefore, List.pairwise_singleton _ _, ?_⟩
      rintro key hkey other hother rfl
      rw [List.mem_singleton.mp hother] at hkey
      exact hfree hkey
    | unnamed | collided | failed =>
      rw [FileOutcome.output?, Option.toList_none, List.append_nil]
      exact hbefore

theorem mem_of_mem (h : run.Steps settings files before rest) {file : Path}
    {outcome : FileOutcome} (hmem : (file, outcome) ∈ run) : file ∈ rest := by
  rw [← h.map_fst]
  exact List.mem_map_of_mem hmem

theorem becomes_of_eq (h : run.Steps settings files [] rest) {first after : DirectoryRun}
    {file : Path} {outcome : FileOutcome} (hrun : run = first ++ (file, outcome) :: after) :
    outcome.Becomes settings files first.outputs file := by
  subst hrun
  have hbecomes := h.becomes_of_append
  rwa [List.nil_append] at hbecomes

theorem exists_becomes_of_mem (h : run.Steps settings files [] rest) {file : Path}
    {outcome : FileOutcome} (hmem : (file, outcome) ∈ run) :
    ∃ before, outcome.Becomes settings files before file := by
  obtain ⟨first, after, hrun⟩ := List.append_of_mem hmem
  exact ⟨DirectoryRun.outputs first, h.becomes_of_eq hrun⟩

end DirectoryRun.Steps

/-! ## The order of the files -/

/-- Paths stand in order if none has a greater key than a later one. -/
def InOrder (paths : List Path) : Prop := paths.Pairwise fun p q ↦ ¬q.sortKey < p.sortKey

theorem inOrder_sort (paths : List Path) : InOrder (Path.sort paths) := by
  have htrans : ∀ p q r : Path, (!decide (q.sortKey < p.sortKey)) = true →
      (!decide (r.sortKey < q.sortKey)) = true → (!decide (r.sortKey < p.sortKey)) = true := by
    simp only [Bool.not_eq_true', decide_eq_false_iff_not]
    exact fun p q r hpq hqr ↦ List.le_trans hpq hqr
  have htotal : ∀ p q : Path,
      (!decide (q.sortKey < p.sortKey) || !decide (p.sortKey < q.sortKey)) = true := by
    simp only [Bool.or_eq_true, Bool.not_eq_true', decide_eq_false_iff_not]
    exact fun p q ↦ List.le_total p.sortKey q.sortKey
  refine (List.pairwise_mergeSort htrans htotal paths).imp ?_
  simp only [Bool.not_eq_true', decide_eq_false_iff_not]
  exact fun h ↦ h

theorem inOrder_of_search {files : FileTree} {pattern? : Option String} {directory : Path}
    {paths : List Path} (h : files.search pattern? directory = .ok paths) : InOrder paths := by
  obtain ⟨pattern, -, h⟩ := bind_eq_ok_iff.mp h
  obtain ⟨there, -, h⟩ := bind_eq_ok_iff.mp h
  split at h
  · obtain ⟨found, -, h⟩ := bind_eq_ok_iff.mp h
    obtain rfl := Except.ok.inj h
    exact inOrder_sort found
  · obtain rfl := Except.ok.inj h
    exact List.Pairwise.nil

/-! ## The account of a run -/

/-- The account of a run over the files at the given paths. -/
structure IsDirectoryRun (settings : Settings) (files : FileTree) (paths : List Path)
    (run : DirectoryRun) : Prop where
  /-- Every file has one outcome, in order. -/
  paths : run.map Prod.fst = paths
  /-- No place is written to twice. -/
  nodup : (run.outputs.map Prod.fst).Nodup
  /-- A file is passed over exactly if an earlier file was generated for its place. -/
  collided_iff : ∀ before file outcome after, run = before ++ (file, outcome) :: after →
    ((∃ path, outcome = .collided path) ↔ ∃ name, className file.stem = .ok name ∧
      ∃ earlier text notes, (earlier, .generated (typingsPath settings name) text notes) ∈ before)
  /-- Any other file is generated exactly if it has typings of its own. -/
  generated_iff : ∀ file outcome, (file, outcome) ∈ run → (∀ path, outcome ≠ .collided path) →
    ((∃ path text notes, outcome = .generated path text notes) ↔ HasTypings files file)
  /-- The typings of a file are written under its class name, and they are those of the file alone,
  whatever else has been done. -/
  generated : ∀ file path text notes, (file, .generated path text notes) ∈ run →
    (∃ name, className file.stem = .ok name ∧ path = typingsPath settings name) ∧
    ∀ t : Session, t.files.read file = files.read file →
      (SessionM.generateFile file).run t = .ok text (t.logged "" notes)
  /-- A file that fails has a contained fault, that of its name or that of the file alone. -/
  failed : ∀ file fault notes, (file, .failed fault notes) ∈ run → fault.isContained = true ∧
    ((className file.stem = .error fault ∧ notes = []) ∨
      ∀ t : Session, t.files.read file = files.read file →
        (SessionM.generateFile file).run t = .error fault (t.logged "" notes))
  /-- A file is passed over for the place of its class name. -/
  collided : ∀ file path, (file, .collided path) ∈ run →
    ∃ name, className file.stem = .ok name ∧ path = typingsPath settings name
  /-- Reports are not mixed up with notes. -/
  report : ∀ file outcome, (file, outcome) ∈ run →
    (outcome.diagnostics file).filter (fun d ↦ d.code = "W002" ∨ d.code = "W003")
      = outcome.report file

theorem isDirectoryRun_of_steps {settings : Settings} {files : FileTree} {paths : List Path}
    {run : DirectoryRun} (h : run.Steps settings files [] paths)
    (hfiles : ∀ file ∈ paths, files.hasFile file = .ok true) :
    IsDirectoryRun settings files paths run := by
  refine ⟨h.map_fst, ?_, ?_, ?_, ?_, ?_, ?_, ?_⟩
  · have hnodup := h.nodup_keys List.nodup_nil
    rwa [List.nil_append] at hnodup
  · intro before file outcome after hrun
    rw [(h.becomes_of_eq hrun).exists_eq_collided_iff]
    simp only [DirectoryRun.mem_keys_outputs_iff]
  -- For the rest it does not matter what came before a file, only that something did.
  · intro file outcome hmem hne
    obtain ⟨before, hbecomes⟩ := h.exists_becomes_of_mem hmem
    exact hbecomes.exists_eq_generated_iff hne
  · intro file path text notes hmem
    obtain ⟨before, hbecomes⟩ := h.exists_becomes_of_mem hmem
    cases hbecomes with
    | @generated name text notes hname hfree htypings =>
      refine ⟨⟨name, hname, rfl⟩, fun t ht ↦ ?_⟩
      rw [run_generateFile_of_read_eq ht, htypings]
      rfl
  · intro file fault notes hmem
    obtain ⟨before, hbecomes⟩ := h.exists_becomes_of_mem hmem
    refine ⟨hbecomes.isContained (hfiles file (h.mem_of_mem hmem)), ?_⟩
    cases hbecomes with
    | unnamed hname => exact Or.inl ⟨hname, rfl⟩
    | failed hname hfree htypings =>
      refine Or.inr fun t ht ↦ ?_
      rw [run_generateFile_of_read_eq ht, htypings]
      rfl
  · intro file path hmem
    obtain ⟨before, hbecomes⟩ := h.exists_becomes_of_mem hmem
    cases hbecomes with
    | @collided name hname htaken => exact ⟨name, hname, rfl⟩
  · intro file outcome hmem
    obtain ⟨before, hbecomes⟩ := h.exists_becomes_of_mem hmem
    exact hbecomes.filter_diagnostics

theorem IsDirectoryRun.error_of_failed {settings : Settings} {files : FileTree}
    {paths : List Path} {run : DirectoryRun} {file : Path} {fault : Fault}
    {notes : List Diagnostic} (h : IsDirectoryRun settings files paths run)
    (hmem : (file, .failed fault notes) ∈ run) :
    className file.stem = .error fault ∨ (typingsOfFile files file).result = .error fault := by
  obtain ⟨-, ⟨hname, -⟩ | halone⟩ := h.failed file fault notes hmem
  · exact Or.inl hname
  · have hrun := halone ⟨files, fun _ ↦ true, "", "", []⟩ rfl
    rw [run_generateFile_of_read_eq (rfl : files.read file = files.read file)] at hrun
    cases hresult : (typingsOfFile files file).result with
    | ok document =>
      rw [hresult] at hrun
      cases hrun
    | error fault' =>
      rw [hresult] at hrun
      injection hrun with hsame
      rw [hsame]
      exact Or.inr rfl

/-! ## The whole run -/

/-- A search that fails is the end of a run, and otherwise the run goes through what was found. -/
theorem run_generateDirectory (settings : Settings) (directory : Path) (s : Session) :
    (SessionM.generateDirectory settings directory).run s
      = match s.files.search settings.pattern? directory with
        | .error fault => .error fault s
        | .ok paths =>
          (paths.foldlM (fun before file ↦
            SessionM.containing file before (SessionM.generateNext settings before file)) []).run
            s := by
  have hfound := SessionM.logs_inspect (s := s) fun files ↦
    files.search settings.pattern? directory
  rw [SessionM.generateDirectory, EStateM.run_bind, hfound, Session.logged_nil]
  cases s.files.search settings.pattern? directory with
  | ok paths => rfl
  | error fault => rfl

open SessionM in
theorem logs_generateDirectory {settings : Settings} {directory : Path} {s : Session}
    {paths : List Path} {run : DirectoryRun}
    (hsearch : s.files.search settings.pattern? directory = .ok paths)
    (hsteps : run.Steps settings s.files [] paths) (hgoes : run.Goes s.console) :
    Logs (generateDirectory settings directory) s run.progress
      ⟨run.diagnostics, .ok run.outputs⟩ := by
  rw [Logs, run_generateDirectory, hsearch]
  have hlogs := hsteps.logs hgoes
  rwa [List.nil_append] at hlogs

open SessionM in
theorem logs_generateDirectory_of_stop {settings : Settings} {directory : Path} {s : Session}
    {paths : List Path} {first after : DirectoryRun} {file : Path} {outcome : FileOutcome}
    {fault : Fault} (hsearch : s.files.search settings.pattern? directory = .ok paths)
    (hsteps : (first ++ (file, outcome) :: after).Steps settings s.files [] paths)
    (hgoes : first.Goes s.console) (hstop : outcome.stop? s.console file = some fault) :
    Logs (generateDirectory settings directory) s first.progress
      ⟨first.diagnostics ++ outcome.notes, .error fault⟩ := by
  rw [Logs, run_generateDirectory, hsearch]
  exact hsteps.logs_of_stop hgoes hstop

/-- **Runs over a directory.** Where all paths that are found are files, there is an account of them
in order, with one outcome for each, whatever the files hold. If standard output takes the reports
on those that fail, the run ends normally: it gives the outputs, prints the progress and adds the
diagnostics of the account, and does nothing else. -/
theorem generateDirectory_isDirectoryRun (settings : Settings) (directory : Path) (s : Session)
    (paths : List Path) (hsearch : s.files.search settings.pattern? directory = .ok paths)
    (hfiles : ∀ file ∈ paths, s.files.hasFile file = .ok true) :
    InOrder paths ∧ ∃ run : DirectoryRun, IsDirectoryRun settings s.files paths run ∧
      ((∀ file fault notes, (file, .failed fault notes) ∈ run → s.console.Takes fault.message) →
        (SessionM.generateDirectory settings directory).run s
          = .ok run.outputs { s with
              output := s.output ++ run.progress
              diagnostics := s.diagnostics ++ run.diagnostics }) := by
  refine ⟨inOrder_of_search hsearch, ?_⟩
  obtain ⟨run, hsteps⟩ := DirectoryRun.exists_steps settings s.files [] paths
  refine ⟨run, isDirectoryRun_of_steps hsteps hfiles, fun htakes ↦ ?_⟩
  exact logs_generateDirectory hsearch hsteps (hsteps.goes_of_hasFile hfiles htakes)

/-- Three files with one class name between them; the first of them is no text. -/
private def inbox : FileTree where
  nodes :=
    [(["in"], .directory), (["in", "1a.json"], .file [255]), (["in", "a!.json"], .file [91, 93]),
      (["in", "a.json"], .file [91, 93])]
  workingDirectory := []

private def inboxPaths : List Path :=
  [⟨.relative, ["in", "1a.json"]⟩, ⟨.relative, ["in", "a!.json"]⟩, ⟨.relative, ["in", "a.json"]⟩]

private theorem search_inbox : inbox.search (some "*") ⟨.relative, ["in"]⟩ = .ok inboxPaths := by
  have hpattern : SearchPattern.read "*" = .ok ⟨[.wildcard [.star]], false⟩ := by cbv
  have hthere : inbox.hasDirectory ⟨.relative, ["in"]⟩ = .ok true := by cbv
  have hfound : inbox.searchFrom false [.wildcard [.star]] ⟨.relative, ["in"]⟩
      = .ok inboxPaths := by
    cbv
  have hsort : Path.sort inboxPaths = inboxPaths := List.mergeSort_of_pairwise (by decide)
  rw [FileTree.search, Option.elim, hpattern]
  refine bind_eq_ok_iff.mpr ⟨_, rfl, bind_eq_ok_iff.mpr ⟨_, hthere, ?_⟩⟩
  rw [if_pos rfl]
  refine bind_eq_ok_iff.mpr ⟨_, hfound, ?_⟩
  rw [hsort]
  rfl

private theorem takes_message_inbox {file : Path} {fault : Fault} {console : Console}
    (hsource : sourceText inbox file = .ok "[]" ∨
      ∃ refused, sourceText inbox file = .error (.encoding refused))
    (h : (typingsOfFile inbox file).result = .error fault) : console.Takes fault.message := by
  rcases hsource with hsource | ⟨refused, hsource⟩
  · cases hname : className file.stem with
    | error fault' =>
      rw [typingsOfFile, hsource, hname] at h
      obtain rfl := Except.error.inj h
      exact takes_message_of_className _ hname
    | ok name =>
      have hentries : descriptionEntries "[]" = .ok [] := by cbv
      obtain ⟨document, -, hdocument⟩ := exists_typingsOfFile hname hsource hentries rfl
      rw [hdocument] at h
      cases h
  · rw [typingsOfFile, hsource] at h
    obtain rfl := Except.error.inj h
    exact console.takes_ofString _

/-- A run that meets a fault and a place that is taken. Standard output refuses all halves, but
there are none in the report on the fault. -/
theorem generateDirectory_isDirectoryRun_inbox :
    inbox.search (some "*") ⟨.relative, ["in"]⟩ = .ok inboxPaths ∧
    (∀ file ∈ inboxPaths, inbox.hasFile file = .ok true) ∧
    InOrder inboxPaths ∧
    ∃ run : DirectoryRun,
      IsDirectoryRun ⟨⟨.relative, ["types"]⟩, some "*", false⟩ inbox inboxPaths run ∧
      (SessionM.generateDirectory ⟨⟨.relative, ["types"]⟩, some "*", false⟩
        ⟨.relative, ["in"]⟩).run ⟨inbox, fun _ ↦ false, "", "", []⟩
          = .ok run.outputs
              ⟨inbox, fun _ ↦ false, "" ++ run.progress, "", [] ++ run.diagnostics⟩ := by
  have hfiles : ∀ file ∈ inboxPaths, inbox.hasFile file = .ok true := by
    rw [inboxPaths]
    simp only [List.forall_mem_cons]
    exact ⟨by cbv, by cbv, by cbv, fun file hfile ↦ absurd hfile List.not_mem_nil⟩
  have hsources : ∀ file ∈ inboxPaths, sourceText inbox file = .ok "[]" ∨
      ∃ refused, sourceText inbox file = .error (.encoding refused) := by
    rw [inboxPaths]
    simp only [List.forall_mem_cons]
    exact ⟨Or.inr ⟨⟨.invalidStart, 255, 0, 1⟩, by cbv⟩, Or.inl (by cbv), Or.inl (by cbv),
      fun file hfile ↦ absurd hfile List.not_mem_nil⟩
  obtain ⟨horder, run, haccount, hreturns⟩ := generateDirectory_isDirectoryRun
    ⟨⟨.relative, ["types"]⟩, some "*", false⟩ ⟨.relative, ["in"]⟩
    ⟨inbox, fun _ ↦ false, "", "", []⟩ inboxPaths search_inbox hfiles
  refine ⟨search_inbox, hfiles, horder, run, haccount, hreturns fun file fault notes hmem ↦ ?_⟩
  have hfile : file ∈ inboxPaths := haccount.paths ▸ List.mem_map_of_mem hmem
  rcases haccount.error_of_failed hmem with hname | hresult
  · exact takes_message_of_className _ hname
  · exact takes_message_inbox (hsources file hfile) hresult

/-! ## Runs that do not end normally -/

/-- An empty description beside a directory, and another directory to go into and back. -/
private def shed : FileTree where
  nodes :=
    [(["d"], .directory), (["in"], .directory), (["in", "a.json"], .file [91, 93]),
      (["in", "contracts"], .directory)]
  workingDirectory := []

private theorem find_shed :
    shed.find (detourPath 817 []) = .ok ⟨["in"], some .directory⟩ := by
  have hsize : ("/".intercalate ["in"]).utf8ByteSize = 2 := by decide
  refine find_detour rfl rfl (writable_detourPath (by simp) (by decide) ?_) (by cbv)
  rw [hsize]
  decide

private theorem find_shed_a_json :
    shed.find (detourPath 817 ["a.json"]) = .ok ⟨["in", "a.json"], some (.file [91, 93])⟩ := by
  have hparts : ∀ part ∈ ["a.json"], Path.IsPart part := by
    simp only [Path.IsPart]
    decide
  have hsize : ("/".intercalate ["in", "a.json"]).utf8ByteSize = 9 := by decide
  refine find_detour rfl rfl (writable_detourPath hparts (by decide) ?_) (by cbv)
  rw [hsize]
  decide

private theorem pathsBelow_shed :
    shed.pathsBelow (detourPath 817 []) = [detourPath 817 ["contracts"]] := by
  rw [FileTree.pathsBelow_of_find find_shed, detourPath, detourPath, List.append_nil]
  rfl

private theorem isPart_contracts : ∀ part ∈ ["contracts"], Path.IsPart part := by
  simp only [Path.IsPart]
  decide

private theorem long_shed :
    FileTree.pathLimit < (detourPath 817 ["contracts"]).text.utf8ByteSize := by
  have hsize : ("/".intercalate ["in", "contracts"]).utf8ByteSize = 12 := by decide
  rw [size_detourPath 817 isPart_contracts, hsize]
  decide

private theorem hasFile_shed {q file : Path}
    (hq : q ∈ detourPath 817 [] :: shed.pathsBelow (detourPath 817 []))
    (h : file ∈ shed.pathsMatching (.endingIn ".json".toList) false q) :
    shed.hasFile file = .ok true := by
  rw [pathsBelow_shed] at hq
  rcases List.mem_cons.mp hq with rfl | hq
  · have hentries : shed.entries ["in"]
        = [("a.json", .file [91, 93]), ("contracts", .directory)] := by
      decide
    have haccepts : (Wildcard.endingIn ".json".toList).accepts "contracts".toList ≠ true :=
      mt Wildcard.accepts_endingIn.mp (by decide)
    rw [FileTree.pathsMatching_of_find find_shed, hentries] at h
    obtain ⟨⟨name, node⟩, hmem, hsome⟩ := List.mem_filterMap.mp h
    dsimp only at hsome
    split at hsome
    · next hname =>
      rcases List.mem_cons.mp hmem with hfirst | hmem
      · obtain ⟨rfl, -⟩ := Prod.mk.inj hfirst
        have hchild : (detourPath 817 []).child "a.json" = detourPath 817 ["a.json"] := by
          rw [Path.child, detourPath, detourPath, List.append_nil]
        rw [← Option.some.inj hsome, hchild]
        exact FileTree.hasFile_eq_ok_true_iff.mpr ⟨_, _, find_shed_a_json⟩
      · obtain ⟨rfl, -⟩ := Prod.mk.inj (List.mem_singleton.mp hmem)
        exact absurd hname haccepts
    · cases hsome
  -- the other directory is too far away to show anything
  · rw [List.mem_singleton.mp hq, FileTree.pathsMatching_of_not_writable] at h
    · exact absurd h List.not_mem_nil
    · exact fun hwritable ↦ absurd hwritable.2 (Nat.not_le.mpr long_shed)

/-- A description, and nothing else. -/
private def desk (bytes : List UInt8) : FileTree where
  nodes := [(["in"], .directory), (["in", "a.json"], .file bytes)]
  workingDirectory := []

/-- The bytes of a description with a type that is half of a pair. -/
private def torn : List UInt8 :=
  [91, 123, 34, 110, 97, 109, 101, 34, 58, 48, 44, 34, 105, 110, 112, 117, 116, 115, 34, 58, 91,
    123, 34, 116, 121, 112, 101, 34, 58, 34, 92, 117, 100, 56, 48, 48, 34, 125, 93, 125, 93]

private def half : Text := ⟨[.half 0]⟩

private def tornInput : Json := .obj [("type", .str half)]

private def tornEntry : Json := .obj [("name", .int 0), ("inputs", .arr [tornInput])]

private theorem read_half : EvmType.read (.str half) .null = .error (.unknownType half) := by
  have hstrip : Text.strip half.toList = half.toList := by decide
  have hsplit : Signature.splitDimension? half.toList = none := by decide
  have hbase : Signature.Base.read half.toList = .error (.unknownType half) := by rfl
  have hsignature : Signature.read half.toList = .error (.unknownType half) := by
    rw [Signature.read, Signature.readOuter]
    split
    · rw [hstrip, hbase]
      rfl
    · next hsome =>
      rw [hstrip, hsplit] at hsome
      cases hsome
  rw [EvmType.read, EvmType.signature, hsignature]
  rfl

private theorem read_tornEntry (filePath : Text) :
    Declaration.read filePath tornEntry = .error (.unknownType half) := by
  have hinput : Parameter.read tornInput = .error (.unknownType half) := by
    have hrun : Parameter.read tornInput
        = (EvmType.read (.str half) .null).map fun type ↦ ⟨.null, type⟩ := rfl
    rw [hrun, read_half]
    rfl
  have hinputs : Parameter.readAll (.arr [tornInput]) = .error (.unknownType half) := by
    have hrun : Parameter.readAll (.arr [tornInput])
        = (Parameter.read tornInput).map fun input ↦ [input] := rfl
    rw [hrun, hinput]
    rfl
  have hmethod : Method.read tornEntry = .error (.unknownType half) := by
    have hrun : Method.read tornEntry
        = (Parameter.readAll (.arr [tornInput])).map fun inputs ↦ ⟨.int 0, inputs, []⟩ := rfl
    rw [hrun, hinputs]
    rfl
  have hclass : classify tornEntry = .ok .function := by cbv
  have hrun : Declaration.read filePath tornEntry
      = classify tornEntry >>= Declaration.readAs filePath tornEntry := rfl
  have hfunction : Function.read tornEntry
      = (Method.read tornEntry).map fun method ↦ ⟨method, false⟩ := rfl
  rw [hrun, hclass]
  change (Function.read tornEntry).map Declaration.function = _
  rw [hfunction, hmethod]
  rfl

private def deskPath : Path := ⟨.relative, ["in", "a.json"]⟩

private theorem className_desk : className deskPath.stem = .ok "A" :=
  className_of_description 'a' [] (by decide) (by decide) (by decide) (by decide)

private theorem search_desk (bytes : List UInt8) :
    (desk bytes).search (some "**/*.json") ⟨.relative, ["in"]⟩ = .ok [deskPath] := by
  have hthere : (desk bytes).hasDirectory ⟨.relative, ["in"]⟩ = .ok true := by cbv
  have hfound : (desk bytes).searchFrom false descriptionSteps ⟨.relative, ["in"]⟩
      = .ok [deskPath] := by
    cbv
  rw [FileTree.search_descriptions hthere, hfound]
  exact congrArg Except.ok (List.mergeSort_singleton deskPath)

private theorem hasFile_desk (bytes : List UInt8) : (desk bytes).hasFile deskPath = .ok true := by
  cbv

private theorem typings_torn :
    typingsOfFile (desk torn) deskPath = ⟨[], .error (.unknownType half)⟩ := by
  have hsource : sourceText (desk torn) deskPath
      = .ok "[\x7b\"name\":0,\"inputs\":[\x7b\"type\":\"\\ud800\"\x7d]\x7d]" := by
    cbv
  have hentries : descriptionEntries
      "[\x7b\"name\":0,\"inputs\":[\x7b\"type\":\"\\ud800\"\x7d]\x7d]" = .ok [tornEntry] := by
    cbv
  have hread : Declaration.readAll deskPath.text [tornEntry]
      = ([], some (.unknownType half)) := by
    rw [Declaration.readAll, read_tornEntry]
  rw [typingsOfFile, hsource, className_desk, Noted.after, Noted.after, typingsOfText, hentries]
  dsimp only
  rw [Contract.readEntries_of_some hread]
  rfl

/-- **A run can be cut off** although all that matches are files. At the end of a long detour, a
directory that does not match is too far away to be searched; and standard output can refuse the
report on a type that is half of a pair. -/
theorem generateDirectory_cut_off :
    (shed.hasDirectory (detourPath 817 []) = .ok true ∧
      (∀ q ∈ detourPath 817 [] :: shed.pathsBelow (detourPath 817 []),
        ∀ file ∈ shed.pathsMatching (.endingIn ".json".toList) false q,
          shed.hasFile file = .ok true) ∧
      ∀ outputs s', (SessionM.generateDirectory ⟨⟨.relative, ["types"]⟩, some "**/*.json", false⟩
        (detourPath 817 [])).run ⟨shed, fun _ ↦ true, "", "", []⟩ ≠ .ok outputs s') ∧
    (desk torn).search (some "**/*.json") ⟨.relative, ["in"]⟩ = .ok [deskPath] ∧
    (desk torn).hasFile deskPath = .ok true ∧
    ∀ outputs s', (SessionM.generateDirectory ⟨⟨.relative, ["types"]⟩, some "**/*.json", false⟩
      ⟨.relative, ["in"]⟩).run ⟨desk torn, fun _ ↦ false, "", "", []⟩ ≠ .ok outputs s' := by
  have hdirectory := FileTree.hasDirectory_eq_ok_true_iff.mpr ⟨_, find_shed⟩
  refine ⟨⟨hdirectory, fun q hq file hfile ↦ hasFile_shed hq hfile, fun outputs s' hok ↦ ?_⟩,
    ?_, ?_, fun outputs s' hok ↦ ?_⟩
  · have hzero := contains_detourPath 817 isPart_contracts (by decide)
    have hbelow : detourPath 817 ["contracts"] ∈ shed.pathsBelow (detourPath 817 []) := by
      rw [pathsBelow_shed]
      exact List.mem_singleton_self _
    have hsearch := FileTree.search_descriptions_ne_ok hdirectory hbelow hzero long_shed
    rw [run_generateDirectory] at hok
    split at hok
    · cases hok
    · next paths hfound => exact hsearch paths hfound
  · exact search_desk torn
  · exact hasFile_desk torn
  · have hsteps : DirectoryRun.Steps ⟨⟨.relative, ["types"]⟩, some "**/*.json", false⟩
        (desk torn) [] [deskPath] ([] ++ [(deskPath, .failed (.unknownType half) [])]) :=
      .cons (.failed className_desk List.not_mem_nil typings_torn) .nil
    have hrefused : ¬Console.Takes (fun _ ↦ false) (Fault.unknownType half).message := by
      intro htakes
      rw [Fault.message, Console.takes_append_iff] at htakes
      exact Bool.false_ne_true (htakes.2 0 List.mem_cons_self)
    obtain ⟨fault, hstop⟩ := Option.ne_none_iff_exists'.mp
      (mt FileOutcome.stop?_failed_eq_none_iff.mp fun hgoes ↦ hrefused hgoes.2)
    have hlogs : _ = SessionM.ending (.error fault) _ :=
      logs_generateDirectory_of_stop (s := ⟨desk torn, fun _ ↦ false, "", "", []⟩)
        (search_desk torn) hsteps (List.forall_mem_nil _) hstop
    rw [hlogs] at hok
    cases hok

end AbiTypings
