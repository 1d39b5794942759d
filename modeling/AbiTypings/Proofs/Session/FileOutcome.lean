import AbiTypings.Proofs.Contract.Partition
import AbiTypings.Proofs.Session.Containment

/-!
# What becomes of a file of a directory

A file of a directory is generated, fails, or is passed over because its place is taken. Which of
the three it is depends on its name, its content and the places taken before it, and
`FileOutcome.Becomes` says how. What the step prints, notes and gives is then read off the outcome
(`SessionM.logs_of_becomes`), so a whole run needs no account of single steps.

A step can stop the run in two ways (`FileOutcome.stop?`). Its fault may be one that cannot be
contained; a file that is there has no such fault, as names and texts are refused with contained
ones, and what is there can be read. Or the fault is contained, but the line that reports it holds
halves that standard output refuses.
-/

namespace AbiTypings

/-! ## Outcomes -/

/-- What becomes of a file of a directory. -/
inductive FileOutcome where
  /-- Its typings are generated for a path, with the notes on it. -/
  | generated (path : String) (text : Text) (notes : List Diagnostic)
  /-- A fault leaves it without typings, after the notes on it. -/
  | failed (fault : Fault) (notes : List Diagnostic)
  /-- The path of its typings belongs to an earlier file. -/
  | collided (path : String)

namespace FileOutcome

/-- The typings with their path, if there are any. -/
def output? : FileOutcome → Option (String × Text)
  | generated path text _ => some (path, text)
  | failed _ _ => none
  | collided _ => none

def notes : FileOutcome → List Diagnostic
  | generated _ _ notes => notes
  | failed _ notes => notes
  | collided _ => []

/-- The report on a file without typings of its own. -/
def report (file : Path) : FileOutcome → List Diagnostic
  | generated _ _ _ => []
  | failed fault _ => [.skippedFile fault.message file.text]
  | collided path => [.outputCollision path file.text]

def diagnostics (file : Path) (outcome : FileOutcome) : List Diagnostic :=
  outcome.notes ++ outcome.report file

def failureLine (file : Path) (fault : Fault) : Text :=
  "Error generating " ++ file.text ++ ": " ++ fault.message

def progress (file : Path) : FileOutcome → Text
  | generated _ _ _ => ""
  | failed fault _ => failureLine file fault ++ "\n"
  | collided path => "Skipping " ++ file.text ++ ": " ++ path ++ " already generated" ++ "\n"

/-- The fault that ends the run at a path: one that cannot be contained, or that of reporting one
that can. -/
def stop? (console : Console) (file : Path) : FileOutcome → Option Fault
  | generated _ _ _ => none
  | failed fault _ =>
    if fault.isContained then
      (Text.refused? console 0 (failureLine file fault).toList).map .lone
    else some fault
  | collided _ => none

section Stop

variable {console : Console} {file : Path} {fault : Fault} {notes : List Diagnostic}

theorem takes_failureLine_iff (file : Path) :
    console.Takes (failureLine file fault) ↔ console.Takes fault.message := by
  simp [failureLine, Console.takes_append_iff, Console.takes_ofString]

theorem stop?_failed_eq_none_iff : (failed fault notes).stop? console file = none ↔
    fault.isContained = true ∧ console.Takes fault.message := by
  rw [stop?, ← takes_failureLine_iff file, Console.takes_iff_refused?]
  split
  · next hcontained => simp [hcontained]
  · next hcontained => simp [hcontained]

theorem not_takes_of_refused {refused : Text.EncodeFault}
    (h : Text.refused? console 0 (failureLine file fault).toList = some refused) :
    ¬console.Takes fault.message := by
  rw [← takes_failureLine_iff file, Console.takes_iff_refused?, h]
  exact Option.some_ne_none refused

theorem stop?_failed_eq_some {last : Fault}
    (h : (failed fault notes).stop? console file = some last) :
    fault.isContained = false ∧ last = fault ∨
      ∃ refused, Text.refused? console 0 (failureLine file fault).toList = some refused ∧
        fault.isContained = true ∧ last = .lone refused := by
  rw [stop?] at h
  split at h
  · next hcontained =>
    obtain ⟨refused, hrefused, rfl⟩ := Option.map_eq_some_iff.mp h
    exact Or.inr ⟨refused, hrefused, hcontained, rfl⟩
  · next hcontained =>
    exact Or.inl ⟨Bool.eq_false_iff.mpr hcontained, (Option.some.inj h).symm⟩

end Stop

end FileOutcome

/-- Where the typings of a class are written. -/
def typingsPath (settings : Settings) (name : String) : String :=
  (settings.outputDirectory.child (name ++ ".d.ts")).text

/-- The outcome of a file, given the outputs before it. -/
inductive FileOutcome.Becomes (settings : Settings) (files : FileTree) (before : Outputs)
    (file : Path) : FileOutcome → Prop
  /-- Without a class name there is no place to ask for. -/
  | unnamed {fault : Fault} (hname : className file.stem = .error fault) :
      Becomes settings files before file (.failed fault [])
  /-- The place is taken. -/
  | collided {name : String} (hname : className file.stem = .ok name)
      (htaken : typingsPath settings name ∈ before.map Prod.fst) :
      Becomes settings files before file (.collided (typingsPath settings name))
  /-- The place is free, but there are no typings for it. -/
  | failed {name : String} {fault : Fault} {notes : List Diagnostic}
      (hname : className file.stem = .ok name)
      (hfree : typingsPath settings name ∉ before.map Prod.fst)
      (htypings : typingsOfFile files file = ⟨notes, .error fault⟩) :
      Becomes settings files before file (.failed fault notes)
  /-- The place is free, and there are typings. -/
  | generated {name : String} {text : Text} {notes : List Diagnostic}
      (hname : className file.stem = .ok name)
      (hfree : typingsPath settings name ∉ before.map Prod.fst)
      (htypings : typingsOfFile files file = ⟨notes, .ok text⟩) :
      Becomes settings files before file (.generated (typingsPath settings name) text notes)

/-! ## Faults of files are contained -/

theorem find_of_look {files : FileTree} {file : Path} {content : List UInt8}
    (h : files.look file = .ok (some (.file content))) :
    ∃ place, files.find file = .ok place ∧ place.node? = some (.file content) := by
  rw [FileTree.look] at h
  split at h
  · next place hfind => exact ⟨place, hfind, Except.ok.inj h⟩
  · cases h
  · cases h

theorem exists_read_of_hasFile {files : FileTree} {file : Path}
    (h : files.hasFile file = .ok true) : ∃ bytes, files.read file = .ok bytes := by
  obtain ⟨node, hlook, h⟩ := bind_eq_ok_iff.mp h
  split at h
  · next content =>
    -- Reading follows the path once more and meets what was seen.
    obtain ⟨place, hfind, hnode⟩ := find_of_look hlook
    refine ⟨content, ?_⟩
    rw [FileTree.read]
    refine bind_eq_ok_iff.mpr ⟨place, hfind, ?_⟩
    rw [hnode]
    rfl
  · exact absurd (Except.ok.inj h) Bool.false_ne_true

theorem yields_className (raw : String) : Yields (fun _ ↦ True) (className raw) := by
  cases h : className raw with
  | ok name => trivial
  | error fault =>
    obtain ⟨-, rfl⟩ := (className_eq_error_iff raw fault).mp h
    rfl

theorem yields_readSource (bytes : List UInt8) : Yields (fun _ ↦ True) (readSource bytes) := by
  rw [readSource]
  split
  · trivial
  · rfl

theorem yields_after {α β : Type} {P : β → Prop} {first : Except Fault α} {next : α → Noted β}
    (h : Yields (fun _ ↦ True) first) (hnext : ∀ a, Yields P (next a).result) :
    Yields P (Noted.after first next).result := by
  cases first with
  | ok a => exact hnext a
  | error fault => exact h

theorem yields_typingsOfFile {files : FileTree} {file : Path}
    (h : files.hasFile file = .ok true) :
    Yields (fun _ ↦ True) (typingsOfFile files file).result := by
  obtain ⟨bytes, hread⟩ := exists_read_of_hasFile h
  have htext : Yields (fun _ ↦ True) (sourceText files file) := by
    rw [sourceText, hread]
    exact yields_readSource bytes
  exact yields_after htext fun text ↦
    yields_after (yields_className file.stem) fun name ↦
      yields_typingsOfText (.str name) file.text text

theorem takes_message_of_className {raw : String} {fault : Fault} (console : Console)
    (h : className raw = .error fault) : console.Takes fault.message := by
  obtain ⟨-, rfl⟩ := (className_eq_error_iff raw fault).mp h
  simp [Fault.message, Console.takes_append_iff, Console.takes_ofString]

theorem FileOutcome.Becomes.isContained {settings : Settings} {files : FileTree} {before : Outputs}
    {file : Path} {fault : Fault} {notes : List Diagnostic}
    (h : (FileOutcome.failed fault notes).Becomes settings files before file)
    (hfile : files.hasFile file = .ok true) : fault.isContained = true := by
  cases h with
  | unnamed hname => exact (yields_className file.stem).of_error hname
  | failed hname hfree htypings =>
    exact (yields_typingsOfFile hfile).of_error (congrArg Noted.result htypings)

/-- A file that is there stops the run at most with the report on it. -/
theorem FileOutcome.Becomes.stop?_eq_none {settings : Settings} {files : FileTree}
    {before : Outputs} {file : Path} {outcome : FileOutcome} {console : Console}
    (h : outcome.Becomes settings files before file) (hfile : files.hasFile file = .ok true)
    (htakes : ∀ fault notes, outcome = .failed fault notes → console.Takes fault.message) :
    outcome.stop? console file = none := by
  cases outcome with
  | failed fault notes =>
    exact stop?_failed_eq_none_iff.mpr ⟨h.isContained hfile, htakes fault notes rfl⟩
  | generated | collided => rfl

theorem FileOutcome.exists_becomes (settings : Settings) (files : FileTree) (before : Outputs)
    (file : Path) : ∃ outcome : FileOutcome, outcome.Becomes settings files before file := by
  cases hname : className file.stem with
  | error fault => exact ⟨_, .unnamed hname⟩
  | ok name =>
    by_cases htaken : typingsPath settings name ∈ before.map Prod.fst
    · exact ⟨_, .collided hname htaken⟩
    · rcases htypings : typingsOfFile files file with ⟨notes, fault | text⟩
      · exact ⟨_, .failed hname htaken htypings⟩
      · exact ⟨_, .generated hname htaken htypings⟩

/-! ## The step for a file -/

theorem lookup_isSome_iff_mem_keys {outputs : Outputs} {key : String} :
    (outputs.lookup key).isSome = true ↔ key ∈ outputs.map Prod.fst := by
  rw [List.lookup_isSome_iff, List.mem_map]
  constructor
  · rintro ⟨output, houtput, hkey⟩
    exact ⟨output, houtput, (eq_of_beq hkey).symm⟩
  · rintro ⟨output, houtput, rfl⟩
    exact ⟨output, houtput, beq_self_eq_true _⟩

namespace SessionM

variable {settings : Settings} {s : Session} {before : Outputs} {file : Path}

theorem logs_report {α : Type} {line : Text} (h : s.console.Takes line) (ds : List Diagnostic)
    (a : α) : Logs (do print line; record ds; return a) s (line ++ "\n") ⟨ds, .ok a⟩ := by
  have hrecord : Logs (do record ds; return a) (s.logged (line ++ "\n") []) ("" ++ "")
      ⟨ds ++ [], .ok a⟩ :=
    (logs_record ds).bind_ok (logs_pure a)
  have hlogs : Logs (do print line; record ds; return a) s (line ++ "\n" ++ ("" ++ ""))
      ⟨[] ++ (ds ++ []), .ok a⟩ :=
    (logs_print h).bind_ok hrecord
  rwa [Text.append_empty, Text.append_empty, List.append_nil] at hlogs

theorem Logs.containing_ok {step : SessionM Outputs} {text : Text} {ds : List Diagnostic}
    {outputs : Outputs} (h : Logs step s text ⟨ds, .ok outputs⟩) :
    Logs (containing file before step) s text ⟨ds, .ok outputs⟩ := by
  have hstep : step s = .ok outputs (s.logged text ds) := h
  change EStateM.tryCatch step _ s = .ok outputs (s.logged text ds)
  rw [EStateM.tryCatch, hstep]

/-- After a contained fault, the step ends as reporting it does. What the failed step noted is
kept. -/
theorem Logs.containing_error {step : SessionM Outputs} {text : Text} {ds ds' : List Diagnostic}
    {fault : Fault} {result : Except Fault Outputs} (h : Logs step s "" ⟨ds, .error fault⟩)
    (hfault : fault.isContained = true)
    (hreport : Logs (do
        print (FileOutcome.failureLine file fault)
        record [.skippedFile fault.message file.text]
        return before) (s.logged "" ds) text ⟨ds', result⟩) :
    Logs (containing file before step) s text ⟨ds ++ ds', result⟩ := by
  have hstep : step s = .error fault (s.logged "" ds) := h
  rw [Logs, Session.logged_logged, Text.empty_append] at hreport
  change EStateM.tryCatch step _ s = _
  rw [EStateM.tryCatch, hstep]
  dsimp only
  rw [if_pos hfault]
  exact hreport

theorem Logs.containing_of_not_isContained {step : SessionM Outputs} {text : Text}
    {ds : List Diagnostic} {fault : Fault} (h : Logs step s text ⟨ds, .error fault⟩)
    (hfault : fault.isContained = false) :
    Logs (containing file before step) s text ⟨ds, .error fault⟩ := by
  have hstep : step s = .error fault (s.logged text ds) := h
  change EStateM.tryCatch step _ s = _
  rw [EStateM.tryCatch, hstep]
  dsimp only
  rw [if_neg (by rw [hfault]; exact Bool.false_ne_true)]
  rfl

theorem Logs.containing_reported {step : SessionM Outputs} {ds : List Diagnostic} {fault : Fault}
    (h : Logs step s "" ⟨ds, .error fault⟩)
    (hgoes : (FileOutcome.failed fault ds).stop? s.console file = none) :
    Logs (containing file before step) s (FileOutcome.progress file (.failed fault ds))
      ⟨FileOutcome.diagnostics file (.failed fault ds), .ok before⟩ := by
  obtain ⟨hcontained, htakes⟩ := FileOutcome.stop?_failed_eq_none_iff.mp hgoes
  have hline : (s.logged "" ds).console.Takes (FileOutcome.failureLine file fault) :=
    (FileOutcome.takes_failureLine_iff file).mpr htakes
  exact h.containing_error hcontained
    (logs_report hline [.skippedFile fault.message file.text] before)

theorem Logs.containing_stopped {step : SessionM Outputs} {ds : List Diagnostic}
    {fault last : Fault} (h : Logs step s "" ⟨ds, .error fault⟩)
    (hstop : (FileOutcome.failed fault ds).stop? s.console file = some last) :
    Logs (containing file before step) s "" ⟨ds, .error last⟩ := by
  rcases FileOutcome.stop?_failed_eq_some hstop with
    ⟨hcontained, rfl⟩ | ⟨refused, hrefused, hcontained, rfl⟩
  · exact h.containing_of_not_isContained hcontained
  · have hreport := (logs_print_refused (s := s.logged "" ds) hrefused).bind_error fun _ ↦ do
      record [.skippedFile fault.message file.text]
      return before
    have hlogs := h.containing_error hcontained hreport
    rwa [List.append_nil] at hlogs

theorem logs_generateNext_unnamed {fault : Fault} (hname : className file.stem = .error fault) :
    Logs (generateNext settings before file) s "" ⟨[], .error fault⟩ := by
  have hpath : outputPath settings.outputDirectory file = .error fault := by
    rw [outputPath, hname]
    rfl
  rw [generateNext, hpath]
  exact (logs_ofExcept (.error fault)).bind_error _

theorem outputPath_of_className {name : String} (hname : className file.stem = .ok name) :
    outputPath settings.outputDirectory file
      = .ok (settings.outputDirectory.child (name ++ ".d.ts")) := by
  rw [outputPath, hname]
  rfl

theorem logs_generateNext_taken {name : String} (hname : className file.stem = .ok name)
    (htaken : typingsPath settings name ∈ before.map Prod.fst) :
    Logs (generateNext settings before file) s
      (FileOutcome.progress file (.collided (typingsPath settings name)))
      ⟨FileOutcome.diagnostics file (.collided (typingsPath settings name)), .ok before⟩ := by
  have hlookup : (before.lookup (typingsPath settings name)).isSome = true :=
    lookup_isSome_iff_mem_keys.mpr htaken
  rw [generateNext, outputPath_of_className hname]
  refine Logs.bind_quiet (logs_ofExcept (.ok _)) ?_
  rw [typingsPath] at hlookup
  rw [if_pos hlookup]
  refine logs_report ?_ _ before
  simp only [Console.takes_append_iff, Console.takes_ofString, and_self]

/-- In a free place, a file is as good as alone. -/
theorem logs_generateNext_free {name : String} (hname : className file.stem = .ok name)
    (hfree : typingsPath settings name ∉ before.map Prod.fst) :
    Logs (generateNext settings before file) s ""
      ⟨(typingsOfFile s.files file).notes, (typingsOfFile s.files file).result.map fun text ↦
        before ++ [(typingsPath settings name, text)]⟩ := by
  have hlookup : ¬(before.lookup (typingsPath settings name)).isSome = true :=
    mt lookup_isSome_iff_mem_keys.mp hfree
  rw [generateNext, outputPath_of_className hname]
  refine Logs.bind_quiet (logs_ofExcept (.ok _)) ?_
  rw [typingsPath] at hlookup
  rw [if_neg hlookup]
  exact (logs_generateFile file).map _

/-- **One step.** As long as no fault stops it, the step for a path prints, notes and gives what its
outcome says. -/
theorem logs_of_becomes {outcome : FileOutcome}
    (h : outcome.Becomes settings s.files before file)
    (hgoes : outcome.stop? s.console file = none) :
    Logs (containing file before (generateNext settings before file)) s (outcome.progress file)
      ⟨outcome.diagnostics file, .ok (before ++ outcome.output?.toList)⟩ := by
  cases h with
  | unnamed hname =>
    rw [FileOutcome.output?, Option.toList_none, List.append_nil]
    exact (logs_generateNext_unnamed hname).containing_reported hgoes
  | collided hname htaken =>
    rw [FileOutcome.output?, Option.toList_none, List.append_nil]
    exact (logs_generateNext_taken hname htaken).containing_ok
  | failed hname hfree htypings =>
    have hlogs := logs_generateNext_free (s := s) hname hfree
    rw [htypings] at hlogs
    rw [FileOutcome.output?, Option.toList_none, List.append_nil]
    exact Logs.containing_reported hlogs hgoes
  | generated hname hfree htypings =>
    have hlogs := logs_generateNext_free (s := s) hname hfree
    rw [htypings] at hlogs
    rw [FileOutcome.diagnostics, FileOutcome.report, List.append_nil]
    exact Logs.containing_ok hlogs

theorem logs_of_becomes_stop {outcome : FileOutcome} {last : Fault}
    (h : outcome.Becomes settings s.files before file)
    (hstop : outcome.stop? s.console file = some last) :
    Logs (containing file before (generateNext settings before file)) s ""
      ⟨outcome.notes, .error last⟩ := by
  cases h with
  | unnamed hname => exact (logs_generateNext_unnamed hname).containing_stopped hstop
  | failed hname hfree htypings =>
    have hlogs := logs_generateNext_free (s := s) hname hfree
    rw [htypings] at hlogs
    exact Logs.containing_stopped hlogs hstop
  | collided | generated => cases hstop

end SessionM

/-! ## Reading outcomes -/

/-- A file has typings of its own: it has a name, it is a text, and the text is accepted. -/
def HasTypings (files : FileTree) (file : Path) : Prop :=
  ∃ name content document, className file.stem = .ok name ∧ sourceText files file = .ok content ∧
    (typingsOfText (.str name) file.text content).result = .ok document

theorem hasTypings_iff {files : FileTree} {file : Path} :
    HasTypings files file ↔ ∃ document, (typingsOfFile files file).result = .ok document := by
  rw [typingsOfFile, HasTypings]
  constructor
  · rintro ⟨name, content, document, hname, hcontent, h⟩
    rw [hcontent, hname]
    exact ⟨document, h⟩
  · rintro ⟨document, h⟩
    cases hcontent : sourceText files file with
    | error fault =>
      rw [hcontent] at h
      cases h
    | ok content =>
      rw [hcontent] at h
      cases hname : className file.stem with
      | error fault =>
        rw [hname] at h
        cases h
      | ok name =>
        rw [hname] at h
        exact ⟨name, content, document, rfl, rfl, h⟩

theorem exists_typingsOfFile {files : FileTree} {file : Path} {name content : String}
    {entries : List Json} {c : Contract} (hname : className file.stem = .ok name)
    (hcontent : sourceText files file = .ok content)
    (hentries : descriptionEntries content = .ok entries)
    (hread : (Contract.readEntries (.str name) file.text entries).result = .ok c) :
    ∃ document, typings c = .ok document ∧ typingsOfFile files file
      = ⟨(Contract.readEntries (.str name) file.text entries).notes, .ok document⟩ := by
  obtain ⟨document, hdocument⟩ :=
    ((Contract.yields_readEntries (.str name) file.text entries).of_ok hread).exists_typings
  refine ⟨document, hdocument, ?_⟩
  rw [typingsOfFile, hcontent, hname]
  exact typingsOfText_eq_of_readEntries hentries hread hdocument

theorem typingsOfFile_congr {files files' : FileTree} {file : Path}
    (h : files'.read file = files.read file) :
    typingsOfFile files' file = typingsOfFile files file := by
  rw [typingsOfFile, sourceText, h, typingsOfFile, sourceText]

theorem run_generateFile_of_read_eq {files : FileTree} {file : Path} {t : Session}
    (h : t.files.read file = files.read file) :
    (SessionM.generateFile file).run t = SessionM.ending (typingsOfFile files file).result
      (t.logged "" (typingsOfFile files file).notes) := by
  rw [← typingsOfFile_congr h]
  exact SessionM.logs_generateFile file

theorem forall_mem_notes_after {α β : Type} {P : Diagnostic → Prop} (first : Except Fault α)
    {next : α → Noted β} (h : ∀ a, ∀ note ∈ (next a).notes, P note) :
    ∀ note ∈ (Noted.after first next).notes, P note := by
  cases first with
  | ok a => exact h a
  | error fault => exact fun note hnote ↦ absurd hnote List.not_mem_nil

theorem code_of_mem_notes_typingsOfFile (files : FileTree) (file : Path) :
    ∀ note ∈ (typingsOfFile files file).notes, note.code = "I001" ∨ note.code = "W001" := by
  refine forall_mem_notes_after _ fun text ↦ forall_mem_notes_after _ fun name ↦ ?_
  rw [typingsOfText]
  cases descriptionEntries text with
  | error fault => exact fun note hnote ↦ absurd hnote List.not_mem_nil
  | ok entries => exact code_of_mem_notes_readEntries (.str name) file.text entries

namespace FileOutcome.Becomes

variable {settings : Settings} {files : FileTree} {before : Outputs} {file : Path}
  {outcome : FileOutcome}

theorem exists_eq_collided_iff (h : outcome.Becomes settings files before file) :
    (∃ path, outcome = .collided path) ↔ ∃ name, className file.stem = .ok name ∧
      typingsPath settings name ∈ before.map Prod.fst := by
  cases h with
  | unnamed hname =>
    rw [hname]
    constructor
    · rintro ⟨path, h⟩
      cases h
    · rintro ⟨name, h, -⟩
      cases h
  | @collided name hname htaken =>
    exact ⟨fun _ ↦ ⟨name, hname, htaken⟩, fun _ ↦ ⟨typingsPath settings name, rfl⟩⟩
  | failed hname hfree | generated hname hfree =>
    constructor
    · rintro ⟨path, h⟩
      cases h
    · rintro ⟨name', hname', htaken⟩
      obtain rfl := Except.ok.inj (hname.symm.trans hname')
      exact absurd htaken hfree

theorem exists_eq_generated_iff (h : outcome.Becomes settings files before file)
    (hne : ∀ path, outcome ≠ .collided path) :
    (∃ path text notes, outcome = .generated path text notes) ↔ HasTypings files file := by
  cases h with
  | unnamed hname =>
    constructor
    · rintro ⟨path, text, notes, h⟩
      cases h
    · rintro ⟨name, content, document, hname', -, -⟩
      rw [hname] at hname'
      cases hname'
  | collided hname htaken => exact absurd rfl (hne _)
  | failed hname hfree htypings =>
    rw [hasTypings_iff, htypings]
    constructor
    · rintro ⟨path, text, notes, h⟩
      cases h
    · rintro ⟨document, h⟩
      cases h
  | @generated name text notes hname hfree htypings =>
    rw [hasTypings_iff, htypings]
    exact ⟨fun _ ↦ ⟨text, rfl⟩, fun _ ↦ ⟨typingsPath settings name, text, notes, rfl⟩⟩

theorem code_of_mem_notes (h : outcome.Becomes settings files before file) :
    ∀ note ∈ outcome.notes, note.code = "I001" ∨ note.code = "W001" := by
  cases h with
  | unnamed | collided => exact fun note hnote ↦ absurd hnote List.not_mem_nil
  | failed hname hfree htypings | generated hname hfree htypings =>
    have hcodes := code_of_mem_notes_typingsOfFile files file
    rwa [htypings] at hcodes

/-- Among the diagnostics on a file, its report is told apart by the codes. -/
theorem filter_diagnostics (h : outcome.Becomes settings files before file) :
    (outcome.diagnostics file).filter (fun d ↦ d.code = "W002" ∨ d.code = "W003")
      = outcome.report file := by
  have hnotes : outcome.notes.filter (fun d ↦ d.code = "W002" ∨ d.code = "W003") = [] := by
    refine List.filter_eq_nil_iff.mpr fun note hnote ↦ ?_
    rcases h.code_of_mem_notes note hnote with hcode | hcode
    · rw [hcode]
      decide
    · rw [hcode]
      decide
  rw [FileOutcome.diagnostics, List.filter_append, hnotes, List.nil_append]
  cases outcome with
  | generated path text notes => rfl
  | failed fault notes => rfl
  | collided path => rfl

end FileOutcome.Becomes

end AbiTypings
