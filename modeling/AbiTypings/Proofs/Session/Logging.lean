import AbiTypings.Session.Generation

/-!
# Steps that only log

Generating typings leaves the files of a session alone. What it changes is what was printed and
which diagnostics there are, and both only grow. `SessionM.Logs` says this of a step together with
how the step ends, so a run is described by what it adds and not by what it passes through.

The typings of a file depend on the session through its files alone: `logs_generateFile` describes
them by `typingsOfFile`, which never sees what has been logged before.
-/

namespace AbiTypings

/-! ## What standard output takes -/

theorem Text.refused?_eq_none_iff {takes : Half → Bool} {start : Nat} {points : List CodePoint} :
    refused? takes start points = none ↔ ∀ h, CodePoint.half h ∈ points → takes h = true := by
  induction points generalizing start with
  | nil => exact iff_of_true rfl fun h hmem ↦ absurd hmem List.not_mem_nil
  | cons p points ih =>
    cases p with
    | char c => simp [refused?, ih]
    | half h =>
      cases htakes : takes h with
      | true => simp [refused?, htakes, ih]
      | false => simp [refused?, htakes]

/-- Standard output takes every half in a text. -/
def Console.Takes (console : Console) (text : Text) : Prop :=
  ∀ h, CodePoint.half h ∈ text.toList → console h = true

namespace Console

variable (console : Console)

theorem takes_ofString (s : String) : console.Takes s := by
  intro h hmem
  rw [Text.toList_ofString] at hmem
  obtain ⟨c, -, hc⟩ := List.mem_map.mp hmem
  cases hc

theorem takes_append_iff {s t : Text} :
    console.Takes (s ++ t) ↔ console.Takes s ∧ console.Takes t := by
  simp only [Takes, Text.toList_append, List.mem_append, or_imp, forall_and]

theorem takes_iff_refused? {text : Text} :
    console.Takes text ↔ Text.refused? console 0 text.toList = none :=
  Text.refused?_eq_none_iff.symm

end Console

/-! ## Logging -/

/-- The session with more printed and more diagnostics. -/
def Session.logged (s : Session) (text : Text) (ds : List Diagnostic) : Session :=
  { s with output := s.output ++ text, diagnostics := s.diagnostics ++ ds }

namespace Session

@[simp] theorem logged_nil (s : Session) : s.logged "" [] = s := by
  rw [logged, Text.append_empty, List.append_nil]

theorem logged_logged (s : Session) (text text' : Text) (ds ds' : List Diagnostic) :
    (s.logged text ds).logged text' ds' = s.logged (text ++ text') (ds ++ ds') := by
  simp only [logged, Text.append_assoc, List.append_assoc]

end Session

namespace SessionM

variable {α β : Type} {s : Session} {text text' : Text} {ds ds' : List Diagnostic}

/-- How a step ends that gives a value or fails, in the session it has reached. -/
def ending (result : Except Fault α) (s : Session) : EStateM.Result Fault Session α :=
  match result with
  | .ok a => .ok a s
  | .error fault => .error fault s

/-- From a session, a step gives the result and adds the text and the notes. -/
def Logs (step : SessionM α) (s : Session) (text : Text) (noted : Noted α) : Prop :=
  step.run s = ending noted.result (s.logged text noted.notes)

theorem logs_pure (a : α) : Logs (pure a) s "" ⟨[], .ok a⟩ := by
  rw [Logs, Session.logged_nil]
  rfl

theorem logs_ofExcept (result : Except Fault α) :
    Logs (MonadExcept.ofExcept result) s "" ⟨[], result⟩ := by
  rw [Logs, Session.logged_nil]
  cases result with
  | ok a => rfl
  | error fault => rfl

theorem logs_inspect (query : FileTree → Except Fault α) :
    Logs (inspect query) s "" ⟨[], query s.files⟩ :=
  logs_ofExcept (query s.files)

theorem logs_record (ds : List Diagnostic) : Logs (record ds) s "" ⟨ds, .ok ()⟩ := by
  rw [Logs, Session.logged, Text.append_empty]
  rfl

theorem run_print (line : Text) : (print line).run s
    = match Text.refused? s.console 0 line.toList with
      | some fault => .error (.lone fault) s
      | none => .ok () (s.logged (line ++ "\n") []) := by
  have hrun : (print line).run s
      = (match Text.refused? s.console 0 line.toList with
          | some fault => throw (.lone fault)
          | none => modify fun s ↦ { s with output := s.output ++ line ++ "\n" } :
          SessionM Unit).run s :=
    rfl
  rw [hrun, Session.logged, List.append_nil, ← Text.append_assoc]
  cases Text.refused? s.console 0 line.toList with
  | some fault => rfl
  | none => rfl

theorem logs_print {line : Text} (h : s.console.Takes line) :
    Logs (print line) s (line ++ "\n") ⟨[], .ok ()⟩ := by
  rw [Logs, run_print, s.console.takes_iff_refused?.mp h]
  rfl

theorem logs_print_refused {line : Text} {fault : Text.EncodeFault}
    (h : Text.refused? s.console 0 line.toList = some fault) :
    Logs (print line) s "" ⟨[], .error (.lone fault)⟩ := by
  rw [Logs, run_print, h, Session.logged_nil]
  rfl

theorem Logs.bind_ok {step : SessionM α} {next : α → SessionM β} {a : α}
    {result : Except Fault β} (h : Logs step s text ⟨ds, .ok a⟩)
    (hnext : Logs (next a) (s.logged text ds) text' ⟨ds', result⟩) :
    Logs (step >>= next) s (text ++ text') ⟨ds ++ ds', result⟩ := by
  rw [Logs, EStateM.run_bind, h, ← Session.logged_logged]
  exact hnext

theorem Logs.bind_quiet {step : SessionM α} {next : α → SessionM β} {a : α} {noted : Noted β}
    (h : Logs step s "" ⟨[], .ok a⟩) (hnext : Logs (next a) s text noted) :
    Logs (step >>= next) s text noted := by
  rw [← Session.logged_nil s] at hnext
  have hlogs := h.bind_ok hnext
  rwa [Text.empty_append, List.nil_append] at hlogs

theorem Logs.bind_error {step : SessionM α} {fault : Fault}
    (h : Logs step s text ⟨ds, .error fault⟩) (next : α → SessionM β) :
    Logs (step >>= next) s text ⟨ds, .error fault⟩ := by
  rw [Logs, EStateM.run_bind, h]
  rfl

theorem Logs.exists_bind {step : SessionM α} {next : α → SessionM β}
    {first : Except Fault α} {P : Text → Noted β → Prop} (h : Logs step s "" ⟨[], first⟩)
    (herror : ∀ fault, P "" ⟨[], .error fault⟩)
    (hnext : ∀ x, first = .ok x → ∃ text noted, Logs (next x) s text noted ∧ P text noted) :
    ∃ text noted, Logs (step >>= next) s text noted ∧ P text noted := by
  cases first with
  | error fault => exact ⟨"", _, h.bind_error next, herror fault⟩
  | ok x =>
    obtain ⟨text, noted, hlogs, hP⟩ := hnext x rfl
    exact ⟨text, noted, h.bind_quiet hlogs, hP⟩

theorem Logs.map {step : SessionM α} {noted : Noted α} (h : Logs step s text noted) (f : α → β) :
    Logs (step >>= fun a ↦ pure (f a)) s text ⟨noted.notes, noted.result.map f⟩ := by
  rw [Logs, EStateM.run_bind, h]
  cases noted.result with
  | ok a => rfl
  | error fault => rfl

end SessionM

/-! ## Asking before noting -/

/-- What is noted once a first result is there. Without it nothing is noted but its fault. -/
def Noted.after {α β : Type} (first : Except Fault α) (next : α → Noted β) : Noted β :=
  match first with
  | .ok a => next a
  | .error fault => ⟨[], .error fault⟩

theorem Noted.after_bind {α β γ : Type} (first : Except Fault α) (second : α → Except Fault β)
    (next : β → Noted γ) :
    Noted.after (first >>= second) next
      = Noted.after first fun a ↦ Noted.after (second a) next := by
  cases first with
  | ok a => rfl
  | error fault => rfl

/-! ## Generating -/

def sourceText (files : FileTree) (file : Path) : Except Fault String :=
  files.read file >>= readSource

/-- The typings of a file, with the notes on the way to them. -/
def typingsOfFile (files : FileTree) (file : Path) : Noted Text :=
  .after (sourceText files file) fun text ↦
    .after (className file.stem) fun name ↦ typingsOfText (.str name) file.text text

namespace SessionM

variable {α β : Type} {s : Session} {text : Text}

theorem Logs.bind_after {step : SessionM α} {next : α → SessionM β} {first : Except Fault α}
    {noted : α → Noted β} (h : Logs step s "" ⟨[], first⟩)
    (hnext : ∀ a, Logs (next a) s "" (noted a)) :
    Logs (step >>= next) s "" (Noted.after first noted) := by
  cases first with
  | ok a => exact h.bind_quiet (hnext a)
  | error fault => exact h.bind_error next

theorem logs_generateText (name : Json) (filePath document : Text) :
    Logs (generateText name filePath document) s "" (typingsOfText name filePath document) := by
  rw [generateText]
  generalize typingsOfText name filePath document = noted
  have hlogs : Logs (record noted.notes >>= fun _ ↦ MonadExcept.ofExcept noted.result) s
      ("" ++ "") ⟨noted.notes ++ [], noted.result⟩ :=
    (logs_record noted.notes).bind_ok (logs_ofExcept noted.result)
  rwa [Text.empty_append, List.append_nil] at hlogs

/-- **Isolation of files.** The typings of a file and the notes on it depend on the files of a
session, and on nothing that was logged before. -/
theorem logs_generateFile (file : Path) :
    Logs (generateFile file) s "" (typingsOfFile s.files file) := by
  rw [typingsOfFile, sourceText, Noted.after_bind]
  exact (logs_inspect fun files ↦ files.read file).bind_after fun bytes ↦
    (logs_ofExcept (readSource bytes)).bind_after fun text ↦
      (logs_ofExcept (className file.stem)).bind_after fun name ↦
        logs_generateText (.str name) file.text text

end SessionM

end AbiTypings
