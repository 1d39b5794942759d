import AbiTypings.CommandLine.Program
import AbiTypings.Proofs.Session.Interruption
import AbiTypings.Proofs.Session.Writing

/-!
# Runs of the program

A run generates, hands over, and reports. Generating only logs, so everything a run does to the
files is done by handing over, and the report comes last whatever happened to the files before.

`Arguments.Generates` says what is generated from which files, for the two kinds of input. With it
a run is one of three: nothing is generated, and the status is not zero; or typings are printed; or
they are written, one after the other. In the last two cases `Outcome.reporting` says how the run
ends if all typings are handed over, and a run that returns with status zero has reported.
-/

namespace AbiTypings.CommandLine

open SessionM

variable {a : Arguments} {console : Console} {files : FileTree} {outputs : Outputs}
  {progress : Text} {ds : List Diagnostic} {s : Session} {settings : Settings}

/-! ## Generating -/

def Arguments.inputPath (a : Arguments) : Path := Path.read a.input

/-- What is generated from files before a console, with what is printed and noted on the way. -/
inductive Arguments.Generates (a : Arguments) (console : Console) (files : FileTree) :
    Outputs → Text → List Diagnostic → Prop
  /-- The input is a file with typings of its own. -/
  | file {settings : Settings} {name : String} {text : Text} {notes : List Diagnostic}
      (hsettings : a.settings = .ok settings)
      (hfile : files.hasFile a.inputPath = .ok true)
      (hname : className a.inputPath.stem = .ok name)
      (htypings : typingsOfFile files a.inputPath = ⟨notes, .ok text⟩) :
      Generates a console files [(typingsPath settings name, text)] "" notes
  /-- The input is a directory, and nothing that is found in it stops the run. -/
  | directory {settings : Settings} {paths : List Path} {run : DirectoryRun}
      (hsettings : a.settings = .ok settings)
      (hfile : files.hasFile a.inputPath = .ok false)
      (hdirectory : files.hasDirectory a.inputPath = .ok true)
      (hsearch : files.search a.pattern? a.inputPath = .ok paths)
      (hsteps : run.Steps settings files [] paths)
      (hgoes : run.Goes console) :
      Generates a console files run.outputs run.progress run.diagnostics

theorem settings_eq_ok_iff : a.settings = .ok settings ↔
    ∃ output, a.output? = some output ∧ settings = ⟨Path.read output, a.pattern?, a.verbose⟩ := by
  rw [Arguments.settings]
  cases a.output? with
  | none => simp
  | some output => simp [eq_comm]

theorem exists_className_of_typings {file : Path} {notes : List Diagnostic} {text : Text}
    (h : typingsOfFile files file = ⟨notes, .ok text⟩) :
    ∃ name, className file.stem = .ok name := by
  obtain ⟨name, -, -, hname, -⟩ := hasTypings_iff.mpr ⟨text, congrArg Noted.result h⟩
  exact ⟨name, hname⟩

/-- What is generated from a file. -/
def generateSingle (settings : Settings) (file : Path) : SessionM (Option Outputs) := do
  let text ← generateFile file
  let path ← MonadExcept.ofExcept (outputPath settings.outputDirectory file)
  return some [(path.text, text)]

theorem logs_generateSingle {file : Path} {name : String} {text : Text} {notes : List Diagnostic}
    (hname : className file.stem = .ok name)
    (htypings : typingsOfFile s.files file = ⟨notes, .ok text⟩) :
    Logs (generateSingle settings file) s ""
      ⟨notes, .ok (some [(typingsPath settings name, text)])⟩ := by
  have hfirst := logs_generateFile (s := s) file
  rw [htypings] at hfirst
  have hlogs : Logs (generateSingle settings file) s ("" ++ "")
      ⟨notes ++ [], .ok (some [(typingsPath settings name, text)])⟩ := by
    rw [generateSingle, outputPath_of_className hname]
    exact hfirst.bind_ok (logs_pure (some [(typingsPath settings name, text)]))
  rwa [Text.empty_append, List.append_nil] at hlogs

theorem logs_generateSingle_error {file : Path} {fault : Fault} {notes : List Diagnostic}
    (htypings : typingsOfFile s.files file = ⟨notes, .error fault⟩) :
    Logs (generateSingle settings file) s "" ⟨notes, .error fault⟩ := by
  have hfirst := logs_generateFile (s := s) file
  rw [htypings] at hfirst
  exact hfirst.bind_error _

/-- A run over a directory only logs, and gives outputs if nothing stops it. -/
theorem exists_logs_generateDirectory (settings : Settings) (directory : Path) (s : Session) :
    ∃ progress noted, Logs (generateDirectory settings directory) s progress noted ∧
      ∀ outputs, noted.result = .ok outputs → ∃ (paths : List Path) (run : DirectoryRun),
        s.files.search settings.pattern? directory = .ok paths ∧
        run.Steps settings s.files [] paths ∧ run.Goes s.console ∧
        outputs = run.outputs ∧ progress = run.progress ∧ noted.notes = run.diagnostics := by
  cases hsearch : s.files.search settings.pattern? directory with
  | error fault =>
    refine ⟨"", ⟨[], .error fault⟩, ?_, fun _ hok ↦ by cases hok⟩
    rw [Logs, run_generateDirectory, hsearch, Session.logged_nil]
    rfl
  | ok paths =>
    obtain ⟨run, hsteps⟩ := DirectoryRun.exists_steps settings s.files [] paths
    rcases run.goes_or_exists_stop s.console with
      hgoes | ⟨first, after, file, outcome, fault, rfl, hgoes, hstop⟩
    · refine ⟨_, _, logs_generateDirectory hsearch hsteps hgoes, fun outputs houtputs ↦ ?_⟩
      exact ⟨paths, run, rfl, hsteps, hgoes, (Except.ok.inj houtputs).symm, rfl, rfl⟩
    · exact ⟨_, _, logs_generateDirectory_of_stop hsearch hsteps hgoes hstop,
        fun _ hok ↦ by cases hok⟩

theorem logs_generate_of_file {text : Text} {noted : Noted (Option Outputs)}
    (hsettings : a.settings = .ok settings) (hfile : s.files.hasFile a.inputPath = .ok true)
    (h : Logs (generateSingle settings a.inputPath) s text noted) :
    Logs a.generate s text noted := by
  rw [Arguments.generate, hsettings]
  refine Logs.bind_quiet (logs_ofExcept (.ok settings)) ?_
  have hthere := logs_inspect (s := s) fun files ↦ files.hasFile a.inputPath
  rw [hfile] at hthere
  exact hthere.bind_quiet h

theorem logs_generate_of_directory {text : Text} {noted : Noted Outputs}
    (hsettings : a.settings = .ok settings) (hfile : s.files.hasFile a.inputPath = .ok false)
    (hdirectory : s.files.hasDirectory a.inputPath = .ok true)
    (h : Logs (generateDirectory settings a.inputPath) s text noted) :
    Logs a.generate s text ⟨noted.notes, noted.result.map some⟩ := by
  rw [Arguments.generate, hsettings]
  refine Logs.bind_quiet (logs_ofExcept (.ok settings)) ?_
  have hthere := logs_inspect (s := s) fun files ↦ files.hasFile a.inputPath
  rw [hfile] at hthere
  refine hthere.bind_quiet ?_
  rw [if_neg Bool.false_ne_true]
  have hthere' := logs_inspect (s := s) fun files ↦ files.hasDirectory a.inputPath
  rw [hdirectory] at hthere'
  exact hthere'.bind_quiet (h.map some)

theorem Arguments.Generates.logs (h : a.Generates s.console s.files outputs progress ds) :
    Logs a.generate s progress ⟨ds, .ok (some outputs)⟩ := by
  cases h with
  | file hsettings hfile hname htypings =>
    exact logs_generate_of_file hsettings hfile (logs_generateSingle hname htypings)
  | @directory settings paths run hsettings hfile hdirectory hsearch hsteps hgoes =>
    have hpattern : settings.pattern? = a.pattern? := by
      obtain ⟨output, -, rfl⟩ := settings_eq_ok_iff.mp hsettings
      rfl
    rw [← hpattern] at hsearch
    exact logs_generate_of_directory hsettings hfile hdirectory
      (logs_generateDirectory hsearch hsteps hgoes)

theorem Arguments.Generates.run (h : a.Generates console files outputs progress ds) :
    a.generate.run ⟨files, console, "", "", []⟩
      = .ok (some outputs) ⟨files, console, progress, "", ds⟩ := by
  have hlogs : a.generate.run ⟨files, console, "", "", []⟩ = _ := h.logs
  rw [hlogs, SessionM.ending, Session.logged, Text.empty_append, List.nil_append]

/-- **Generating only logs.** It leaves the files alone, however it ends, and what it gives is
generated from them. -/
theorem exists_logs_generate (a : Arguments) (s : Session) :
    ∃ progress noted, Logs a.generate s progress noted ∧
      ∀ outputs, noted.result = .ok (some outputs) →
        a.Generates s.console s.files outputs progress noted.notes := by
  rw [Arguments.generate]
  refine (logs_ofExcept a.settings).exists_bind (fun fault ↦ nofun) fun settings hsettings ↦ ?_
  refine (logs_inspect _).exists_bind (fun fault ↦ nofun) fun isFile hfile ↦ ?_
  cases isFile with
  | true =>
    rcases htypings : typingsOfFile s.files a.inputPath with ⟨notes, fault | text⟩
    · exact ⟨"", _, logs_generateSingle_error htypings, nofun⟩
    · obtain ⟨name, hname⟩ := exists_className_of_typings htypings
      -- typings that were given have a class name, so the place of the document is known
      refine ⟨"", _, logs_generateSingle hname htypings, fun outputs houtputs ↦ ?_⟩
      obtain rfl := Option.some.inj (Except.ok.inj houtputs)
      exact .file hsettings hfile hname htypings
  | false =>
    rw [if_neg Bool.false_ne_true]
    refine (logs_inspect _).exists_bind (fun fault ↦ nofun) fun isDirectory hdirectory ↦ ?_
    cases isDirectory with
    | false => exact ⟨"", _, logs_pure none, nofun⟩
    | true =>
      obtain ⟨text, noted, hlogs, hgives⟩ :=
        exists_logs_generateDirectory settings a.inputPath s
      refine ⟨text, _, hlogs.map some, fun outputs houtputs ↦ ?_⟩
      obtain ⟨outputs', houtputs', hsome⟩ := map_eq_ok_iff.mp houtputs
      obtain rfl := Option.some.inj hsome
      obtain ⟨paths, run, hsearch, hsteps, hgoes, rfl, rfl, hnotes⟩ := hgives _ houtputs'
      have hpattern : settings.pattern? = a.pattern? := by
        obtain ⟨output, -, rfl⟩ := settings_eq_ok_iff.mp hsettings
        rfl
      rw [hpattern] at hsearch
      rw [hnotes]
      exact .directory hsettings hfile hdirectory hsearch hsteps hgoes

/-! ## Handing over and reporting -/

/-- Typings as they are printed, each with a line end. -/
def shown (outputs : Outputs) : Text := Text.join (outputs.map (·.2 ++ "\n"))

/-- Standard output takes all typings. -/
def Shows (console : Console) (outputs : Outputs) : Prop :=
  ∀ output ∈ outputs, console.Takes output.2

/-- How a run ends once it has handed over typings: with the report on the diagnostics. -/
def Outcome.reporting (verbose : Bool) (ds : List Diagnostic) (output : Text)
    (files : FileTree) : Outcome where
  status := match (report verbose ds).fault? with
    | some fault => .error fault
    | none => .ok 0
  output := output
  errors := Text.join ((report verbose ds).lines.map (· ++ "\n"))
  files := files

/-- Typings are printed one after the other, and the first one that is refused ends it. -/
theorem logs_print_all (outputs : Outputs) (s : Session) : ∃ text result,
    Logs (outputs.forM fun (_, text) ↦ SessionM.print text) s text ⟨[], result⟩ ∧
      (Shows s.console outputs → text = shown outputs ∧ result = .ok ()) ∧
      (¬Shows s.console outputs → ∃ fault, result = .error fault) := by
  induction outputs generalizing s with
  | nil => exact ⟨"", .ok (), logs_pure (), fun _ ↦ ⟨rfl, rfl⟩, fun h ↦ absurd nofun h⟩
  | cons output rest ih =>
    have hcons : ((output :: rest).forM fun (_, text) ↦ SessionM.print text : SessionM Unit)
        = SessionM.print output.2 >>= fun _ ↦ rest.forM fun (_, text) ↦ SessionM.print text :=
      rfl
    have hshows : Shows s.console (output :: rest) ↔
        s.console.Takes output.2 ∧ Shows s.console rest :=
      List.forall_mem_cons
    rw [hcons, hshows]
    cases hrefused : Text.refused? s.console 0 output.2.toList with
    | some fault =>
      have htakes : ¬s.console.Takes output.2 := by
        rw [s.console.takes_iff_refused?, hrefused]
        exact Option.some_ne_none fault
      exact ⟨"", .error (.lone fault), (logs_print_refused hrefused).bind_error _,
        fun h ↦ absurd h.1 htakes, fun _ ↦ ⟨_, rfl⟩⟩
    | none =>
      have htakes := s.console.takes_iff_refused?.mpr hrefused
      obtain ⟨text, result, hlogs, hshown, hfault⟩ := ih (s.logged (output.2 ++ "\n") [])
      refine ⟨output.2 ++ "\n" ++ text, result, (logs_print htakes).bind_ok hlogs,
        fun h ↦ ?_, fun h ↦ hfault fun hrest ↦ h ⟨htakes, hrest⟩⟩
      obtain ⟨rfl, rfl⟩ := hshown h.2
      exact ⟨rfl, rfl⟩

/-- The session with more lines on standard error. -/
def withComplaints (s : Session) (lines : List Text) : Session :=
  { s with errors := s.errors ++ Text.join (lines.map (· ++ "\n")) }

theorem run_printReport (verbose : Bool) (s : Session) :
    (printReport verbose).run s = match (report verbose s.diagnostics).fault? with
      | some fault => .error fault (withComplaints s (report verbose s.diagnostics).lines)
      | none => .ok () (withComplaints s (report verbose s.diagnostics).lines) := by
  have hrun : (printReport verbose).run s
      = (match (report verbose s.diagnostics).fault? with
          | some fault => throw fault
          | none => return () : SessionM Unit).run
        (withComplaints s (report verbose s.diagnostics).lines) := rfl
  rw [hrun]
  cases (report verbose s.diagnostics).fault? with
  | some fault => rfl
  | none => rfl

theorem ofResult_printReport (verbose : Bool) (s : Session) (h : s.errors = "") :
    Outcome.ofResult ((do printReport verbose; return 0 : SessionM Nat).run s)
      = .reporting verbose s.diagnostics s.output s.files := by
  rw [EStateM.run_bind, run_printReport, Outcome.reporting, withComplaints, h, Text.empty_append]
  cases (report verbose s.diagnostics).fault? with
  | some fault => rfl
  | none => rfl

variable (program : String) {arguments : List String}

theorem runProgram_of_generates (ha : Arguments.read arguments = .ok a)
    (h : a.Generates console files outputs progress ds) :
    runProgram program console arguments files = .ofResult ((do
      a.deliver outputs
      printReport a.verbose
      return 0 : SessionM Nat).run ⟨files, console, progress, "", ds⟩) := by
  rw [runProgram, ha]
  dsimp only
  rw [Arguments.run, EStateM.run_bind, h.run]

/-- **Printing.** A run that prints typings leaves the files alone. If standard output takes all of
them, nothing is printed behind them, and otherwise the status is not zero. -/
theorem runProgram_stdout (ha : Arguments.read arguments = .ok a) (hstdout : a.stdout = true)
    (h : a.Generates console files outputs progress ds) :
    (runProgram program console arguments files).files = files ∧
      (Shows console outputs → runProgram program console arguments files
        = .reporting a.verbose ds (progress ++ shown outputs) files) ∧
      (¬Shows console outputs →
        (runProgram program console arguments files).status ≠ .ok 0) := by
  have hdeliver : a.deliver outputs = outputs.forM fun (_, text) ↦ SessionM.print text := by
    rw [Arguments.deliver, if_pos hstdout]
  obtain ⟨text, result, hlogs, hshown, hfault⟩ :=
    logs_print_all outputs ⟨files, console, progress, "", ds⟩
  rw [Logs, Session.logged, List.append_nil] at hlogs
  rw [runProgram_of_generates program ha h, hdeliver, EStateM.run_bind, hlogs]
  cases result with
  | ok _ =>
    have hreport := ofResult_printReport a.verbose ⟨files, console, progress ++ text, "", ds⟩ rfl
    dsimp only [SessionM.ending]
    rw [hreport]
    refine ⟨rfl, fun h ↦ ?_, fun h ↦ ?_⟩
    · rw [(hshown h).1]
    · obtain ⟨fault, herror⟩ := hfault h
      cases herror
  | error fault =>
    refine ⟨rfl, fun h ↦ ?_, fun _ hok ↦ by cases hok⟩
    cases (hshown h).2

/-- **Writing.** A run that writes typings reports once all are written; a fault before that is its
end. -/
theorem runProgram_written (ha : Arguments.read arguments = .ok a) (hstdout : a.stdout = false)
    (h : a.Generates console files outputs progress ds) :
    (runProgram program console arguments files).files = (files.depositAll outputs).1 ∧
      (∀ fault, (files.depositAll outputs).2 = some fault →
        (runProgram program console arguments files).status = .error fault) ∧
      ((files.depositAll outputs).2 = none → runProgram program console arguments files
        = .reporting a.verbose ds (progress ++ receipts outputs) (files.depositAll outputs).1) := by
  have hdeliver : a.deliver outputs = SessionM.writeOutputs outputs := by
    rw [Arguments.deliver, if_neg (by rw [hstdout]; exact Bool.false_ne_true)]
  obtain ⟨text, hrun, htext⟩ := run_writeOutputs outputs ⟨files, console, progress, "", ds⟩
  rw [runProgram_of_generates program ha h, hdeliver, EStateM.run_bind, hrun]
  dsimp only at htext ⊢
  generalize files.depositAll outputs = deposited at htext ⊢
  obtain ⟨t, fault | fault⟩ := deposited
  · have hreport := ofResult_printReport a.verbose ⟨t, console, progress ++ text, "", ds⟩ rfl
    rw [SessionM.endingOn]
    dsimp only
    rw [hreport, htext rfl]
    exact ⟨rfl, nofun, fun _ ↦ rfl⟩
  · exact ⟨rfl, fun _ hfault ↦ congrArg Except.error (Option.some.inj hfault), nofun⟩

/-- **Giving up.** Where nothing is generated, the status is not zero and the files are as they
were. -/
theorem runProgram_not_generates (ha : Arguments.read arguments = .ok a)
    (h : ∀ outputs progress ds, ¬a.Generates console files outputs progress ds) :
    (runProgram program console arguments files).files = files ∧
      (runProgram program console arguments files).status ≠ .ok 0 := by
  obtain ⟨progress, ⟨notes, result⟩, hlogs, hgenerates⟩ :=
    exists_logs_generate a ⟨files, console, "", "", []⟩
  have hlogs : a.generate.run ⟨files, console, "", "", []⟩ = _ := hlogs
  rw [runProgram, ha]
  dsimp only
  rw [Arguments.run, EStateM.run_bind, hlogs]
  rcases result with fault | outputs | outputs
  · exact ⟨rfl, nofun⟩
  · have hline : console.Takes ("Error: " ++ a.input ++ " is not a valid file or directory") := by
      simp only [Console.takes_append_iff, Console.takes_ofString, and_self]
    rw [Session.logged]
    dsimp only [SessionM.ending]
    rw [EStateM.run_bind, run_print, console.takes_iff_refused?.mp hline]
    exact ⟨rfl, fun h ↦ absurd (Except.ok.inj h) (by decide)⟩
  · exact absurd (hgenerates outputs rfl) (h outputs progress notes)

end AbiTypings.CommandLine
