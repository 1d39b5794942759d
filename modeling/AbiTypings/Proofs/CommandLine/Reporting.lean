import AbiTypings.Proofs.CommandLine.Run
import AbiTypings.Proofs.Diagnostic.Summary

/-!
# Runs that report

A run that has handed over its typings only has to report. It ends with status zero if the warnings
can be counted, and with a fault otherwise (`reporting_completes_iff`); the typings are there in
either case.

Which warnings there are is told by what was read: a description leaves one for each entry of an
unknown kind, counted under this kind, and a file that is left out leaves one that is counted under
a fixed text. So a single entry whose kind is a sequence is enough for a run to fail
(`reporting_shelf`), and so is an entry whose kind is a number beside a file that is left out.
-/

namespace AbiTypings

/-! ## What leaves notes behind -/

/-- Whether entries of a kind are read or left out without a warning. -/
def isKnownKind (kind : Json) : Bool :=
  kind.isText ["function", "event", "constructor", "fallback", "receive"]

/-- The unknown kinds among those of entries, as they are counted. -/
def unknownKinds (entries : List Json) : List Json :=
  ((entries.map declaredKind).filter fun kind ↦ !isKnownKind kind).map (·.orElse (.str "other"))

/-- Something that leaves notes behind. -/
inductive Occasion where
  /-- A description is read. -/
  | description (name : Json) (filePath : Text) (entries : List Json)
  /-- A file fails. -/
  | skippedFile (reason filePath : Text)
  /-- The place of the typings of a file is taken. -/
  | outputCollision (outputPath filePath : Text)

namespace Occasion

def notes : Occasion → List Diagnostic
  | description name filePath entries => (Contract.readEntries name filePath entries).notes
  | skippedFile reason filePath => [.skippedFile reason filePath]
  | outputCollision outputPath filePath => [.outputCollision outputPath filePath]

/-- A description that is read is accepted. -/
def Accepted : Occasion → Prop
  | description name filePath entries =>
    ∃ c, (Contract.readEntries name filePath entries).result = .ok c
  | skippedFile _ _ => True
  | outputCollision _ _ => True

/-- What the warnings are counted under. -/
def constructs : Occasion → List Json
  | description _ _ entries => unknownKinds entries
  | skippedFile _ _ => [.str "file"]
  | outputCollision _ _ => [.str "file"]

end Occasion

theorem skippedNote_of_unknown {entry : Json} (h : isKnownKind (declaredKind entry) = false)
    (filePath : Text) : entryGroup entry = .skipped ∧ skippedNote filePath entry
      = .unsupportedEntry (declaredKind entry) (entry.memberOr "name" (.str "")) filePath := by
  constructor
  · rw [entryGroup]
    split
    · next hkind =>
      rw [Json.string?_eq_some_iff.mp hkind] at h
      cases h
    · next hkind =>
      rw [Json.string?_eq_some_iff.mp hkind] at h
      cases h
    · rfl
  · have hignored : (declaredKind entry).isText ["constructor", "fallback", "receive"] = false := by
      cases hkind : declaredKind entry with
      | str kind => simp_all [isKnownKind, Json.isText]
      | _ => rfl
    rw [skippedNote, hignored, if_neg Bool.false_ne_true]

theorem skippedNote_of_known {entry : Json} (h : isKnownKind (declaredKind entry) = true)
    (hgroup : entryGroup entry = .skipped) (filePath : Text) :
    (skippedNote filePath entry).isWarning = false := by
  rw [skippedNote]
  split
  · rfl
  · next hignored =>
    rw [entryGroup] at hgroup
    cases hkind : declaredKind entry with
    | str kind =>
      have hread : kind = "function" ∨ kind = "event" := by
        simp_all [isKnownKind, Json.isText]
      rw [hkind] at hgroup
      rcases hread with rfl | rfl
      · have hmember : (if !readsOnly entry then EntryGroup.function
            else if inputCount entry = 0 ∧ outputCount entry = 1 then .accessor
            else .constantFunction) = .skipped := hgroup
        split at hmember
        · cases hmember
        · split at hmember <;> cases hmember
      · cases hgroup
    | _ =>
      rw [hkind] at h
      cases h

/-- The warnings on entries that are left out are those on unknown kinds. -/
theorem countedConstructs_skipped (filePath : Text) (entries : List Json) :
    countedConstructs ((entries.filter fun entry ↦ entryGroup entry = .skipped).map
      (skippedNote filePath)) = unknownKinds entries := by
  induction entries with
  | nil => rfl
  | cons entry entries ih =>
    cases hknown : isKnownKind (declaredKind entry) with
    | true =>
      -- an entry of a known kind may be left out as well, but then its note is no warning
      have hkinds : unknownKinds (entry :: entries) = unknownKinds entries := by
        rw [unknownKinds, List.map_cons, List.filter_cons_of_neg (by simp [hknown]), unknownKinds]
      rw [hkinds, ← ih]
      by_cases hgroup : entryGroup entry = .skipped
      · rw [List.filter_cons_of_pos (by simpa using hgroup), List.map_cons, countedConstructs,
          List.filter_cons_of_neg (by simp [skippedNote_of_known hknown hgroup]), countedConstructs]
      · rw [List.filter_cons_of_neg (by simpa using hgroup)]
    | false =>
      obtain ⟨hgroup, hnote⟩ := skippedNote_of_unknown hknown filePath
      rw [List.filter_cons_of_pos (by simpa using hgroup), List.map_cons, hnote,
        countedConstructs, List.filter_cons_of_pos rfl, List.map_cons, ← countedConstructs, ih,
        unknownKinds, unknownKinds, List.map_cons, List.filter_cons_of_pos (by simp [hknown]),
        List.map_cons]
      rfl

theorem Occasion.countedConstructs_notes {occasion : Occasion} (h : occasion.Accepted) :
    countedConstructs occasion.notes = occasion.constructs := by
  cases occasion with
  | description name filePath entries =>
    obtain ⟨c, hc⟩ := h
    obtain ⟨ds, hread, rfl⟩ := readEntries_eq_ok hc
    rw [notes, Contract.readEntries_of_none hread, (isPartition_ofDeclarations hread name).skipped]
    exact countedConstructs_skipped filePath entries
  | skippedFile reason filePath => rfl
  | outputCollision outputPath filePath => rfl

theorem countedConstructs_flatMap_notes {occasions : List Occasion}
    (h : ∀ occasion ∈ occasions, occasion.Accepted) :
    countedConstructs (occasions.flatMap Occasion.notes)
      = occasions.flatMap Occasion.constructs := by
  induction occasions with
  | nil => rfl
  | cons occasion occasions ih =>
    obtain ⟨hfirst, hrest⟩ := List.forall_mem_cons.mp h
    rw [List.flatMap_cons, List.flatMap_cons, countedConstructs_append,
      Occasion.countedConstructs_notes hfirst, ih hrest]

namespace CommandLine

variable {a : Arguments} {console : Console} {files : FileTree} {outputs : Outputs}
  {progress : Text} {ds : List Diagnostic}

/-! ## Runs that come to the report -/

/-- All typings are printed, or all of them are written. -/
def Arguments.HandsOver (a : Arguments) (console : Console) (files : FileTree)
    (outputs : Outputs) : Prop :=
  if a.stdout then Shows console outputs else (files.depositAll outputs).2 = none

theorem Outcome.status_reporting (verbose : Bool) (ds : List Diagnostic) (output : Text)
    (files : FileTree) : ((reporting verbose ds output files).status = .ok 0 ↔
      Countable (countedConstructs ds)) ∧
    ∀ fault, (reporting verbose ds output files).status = .error fault → fault.kind = .type := by
  rw [reporting]
  dsimp only
  rcases report_cases verbose ds with ⟨hnone, hcountable⟩ | ⟨fault, hsome, hkind, hcountable⟩
  · rw [hnone]
    refine ⟨iff_of_true rfl hcountable, fun fault h ↦ ?_⟩
    cases h
  · rw [hsome]
    refine ⟨iff_of_false (fun h ↦ ?_) hcountable, fun fault' h ↦ ?_⟩
    · cases h
    · rwa [← Except.error.inj h]

theorem exists_eq_reporting (program : String) {arguments : List String}
    (ha : Arguments.read arguments = .ok a) (h : a.Generates console files outputs progress ds)
    (hover : a.HandsOver console files outputs) : ∃ output files',
      runProgram program console arguments files = .reporting a.verbose ds output files' := by
  rw [Arguments.HandsOver] at hover
  cases hstdout : a.stdout with
  | true =>
    rw [if_pos hstdout] at hover
    exact ⟨_, _, (runProgram_stdout program ha hstdout h).2.1 hover⟩
  | false =>
    rw [if_neg (by rw [hstdout]; exact Bool.false_ne_true)] at hover
    exact ⟨_, _, (runProgram_written program ha hstdout h).2.2 hover⟩

/-- **Reporting.** After accepted descriptions and files that were left out, in any order, the
summary line and the report are complete if all unknown kinds can be counted beside each other and
beside the files, and only then. A run that hands over its typings returns zero under the same
condition on its warnings, and otherwise ends with a value of the wrong kind. -/
theorem reporting_completes_iff {occasions : List Occasion}
    (haccepted : ∀ occasion ∈ occasions, occasion.Accepted) (program : String) (console : Console)
    (arguments : List String) (files : FileTree) :
    ((∃ line, summaryLine (occasions.flatMap Occasion.notes) = .ok line) ↔
      Countable (occasions.flatMap Occasion.constructs)) ∧
    (∀ verbose, (report verbose (occasions.flatMap Occasion.notes)).fault? = none ↔
      Countable (occasions.flatMap Occasion.constructs)) ∧
    ∀ a outputs progress ds, Arguments.read arguments = .ok a →
      a.Generates console files outputs progress ds → a.HandsOver console files outputs →
      ((runProgram program console arguments files).status = .ok 0 ↔
        Countable (countedConstructs ds)) ∧
      ∀ fault, (runProgram program console arguments files).status = .error fault →
        fault.kind = .type := by
  rw [← countedConstructs_flatMap_notes haccepted]
  refine ⟨exists_summaryLine_iff, fun verbose ↦ fault?_report_eq_none_iff,
    fun a outputs progress ds ha h hover ↦ ?_⟩
  obtain ⟨output, files', hreporting⟩ := exists_eq_reporting program ha h hover
  rw [hreporting]
  exact Outcome.status_reporting a.verbose ds output files'

/-- A description, and nothing else. -/
private def shelf (bytes : List UInt8) : FileTree where
  nodes := [(["in.json"], .file bytes)]
  workingDirectory := []

private def shelfArguments : Arguments := ⟨"in.json", some "types", false, some "**/*.json", false⟩

private theorem read_shelfArguments : Arguments.read ["in.json"] = .ok shelfArguments := by
  have hword : readWord "in.json" = .ok (.plain "in.json") := by
    rw [readWord]
    exact if_pos (by decide)
  have hwords : readWords ["in.json"] = .ok [.plain "in.json"] := by
    rw [readWords, if_neg (by decide), hword]
    rfl
  rw [Arguments.read, hwords]
  rfl

private theorem handsOver_shelf (bytes : List UInt8) {document : Text} {written : List UInt8}
    (hencode : document.encode = .ok written) :
    shelfArguments.HandsOver (fun _ ↦ false) (shelf bytes) [("types/In.d.ts", document)] := by
  have hparent : (Path.read "types/In.d.ts").parent = ⟨.relative, ["types"]⟩ := by decide +kernel
  have hpath : Path.read "types/In.d.ts" = ⟨.relative, ["types", "In.d.ts"]⟩ := by decide +kernel
  have hmake : (shelf bytes).makeDirectory ⟨.relative, ["types"]⟩
      = .ok ((shelf bytes).put ["types"] .directory) := by
    refine FileTree.makeDirectory_eq_ok_iff.mpr ⟨_, ?_, rfl⟩
    cbv
  have hwrite : ((shelf bytes).put ["types"] .directory).write
      ⟨.relative, ["types", "In.d.ts"]⟩ written
      = .ok (((shelf bytes).put ["types"] .directory).put ["types", "In.d.ts"]
          (.file written)) := by
    refine FileTree.write_of_find_none ?_
    cbv
  rw [← hparent] at hmake
  rw [← hpath] at hwrite
  have hdeposit : (shelf bytes).depositAll [("types/In.d.ts", document)] = (_, none) :=
    FileTree.depositAll_of_makeDirectory hmake hencode hwrite
  exact congrArg Prod.snd hdeposit

private theorem generates_shelf {bytes : List UInt8} {description : String}
    {entries : List Json}
    (hsource : sourceText (shelf bytes) ⟨.relative, ["in.json"]⟩ = .ok description)
    (hentries : descriptionEntries description = .ok entries)
    (hread : (Contract.readEntries (.str "In") "in.json" entries).result
      = .ok ⟨.str "In", [], [], [], []⟩) :
    ∃ document,
      shelfArguments.Generates (fun _ ↦ false) (shelf bytes) [("types/In.d.ts", document)] ""
        (Contract.readEntries (.str "In") "in.json" entries).notes ∧
      shelfArguments.HandsOver (fun _ ↦ false) (shelf bytes) [("types/In.d.ts", document)] := by
  have hinput : shelfArguments.inputPath = ⟨.relative, ["in.json"]⟩ := by decide +kernel
  have htext : (⟨.relative, ["in.json"]⟩ : Path).text = "in.json" := by decide +kernel
  have hfind : (shelf bytes).find ⟨.relative, ["in.json"]⟩
      = .ok ⟨["in.json"], some (.file bytes)⟩ := by
    cbv
  have hfile := FileTree.hasFile_eq_ok_true_iff.mpr ⟨_, _, hfind⟩
  have hname : className (⟨.relative, ["in.json"]⟩ : Path).stem = .ok "In" :=
    className_of_description 'i' ['n'] (by decide) (by decide) (by decide) (by decide)
  have hplace : typingsPath ⟨Path.read "types", some "**/*.json", false⟩ "In"
      = "types/In.d.ts" := by
    decide +kernel
  rw [← htext] at hread ⊢
  obtain ⟨document, hdocument, htypings⟩ := exists_typingsOfFile hname hsource hentries hread
  obtain ⟨written, hencode⟩ := FileTree.exists_encode_of_typings hdocument (by decide +kernel)
  rw [← hinput] at hfile hname htypings ⊢
  refine ⟨document, ?_, handsOver_shelf bytes hencode⟩
  rw [← hplace]
  exact .file rfl hfile hname htypings

/-- The bytes of an entry whose kind is a sequence. -/
private def boxed : List UInt8 :=
  [91, 123, 34, 116, 121, 112, 101, 34, 58, 91, 34, 120, 34, 93, 125, 93]

private def boxedEntries : List Json := [.obj [("type", .arr [.str "x"])]]

private theorem readEntries_boxed :
    Contract.readEntries (.str "In") "in.json" boxedEntries
      = ⟨[.unsupportedEntry (.arr [.str "x"]) (.str "") "in.json"],
        .ok ⟨.str "In", [], [], [], []⟩⟩ := by
  have hread : Declaration.readAll "in.json" boxedEntries
      = ([.skipped (.unsupportedEntry (.arr [.str "x"]) (.str "") "in.json")], none) :=
    rfl
  exact Contract.readEntries_of_none hread _

/-- **A report can fail.** An entry whose kind is a sequence is accepted, and the run writes its
typings, but the warning on it cannot be counted. -/
theorem reporting_shelf :
    (Occasion.description (.str "In") "in.json" boxedEntries).Accepted ∧
    (∀ line, summaryLine (Occasion.description (.str "In") "in.json" boxedEntries).notes
      ≠ .ok line) ∧
    (∀ verbose, (report verbose
      (Occasion.description (.str "In") "in.json" boxedEntries).notes).fault? ≠ none) ∧
    Arguments.read ["in.json"] = .ok shelfArguments ∧
    ∃ document,
      shelfArguments.Generates (fun _ ↦ false) (shelf boxed) [("types/In.d.ts", document)] ""
        (Occasion.description (.str "In") "in.json" boxedEntries).notes ∧
      shelfArguments.HandsOver (fun _ ↦ false) (shelf boxed) [("types/In.d.ts", document)] ∧
      (runProgram "abi2ts" (fun _ ↦ false) ["in.json"] (shelf boxed)).status ≠ .ok 0 := by
  have hread : (Contract.readEntries (.str "In") "in.json" boxedEntries).result
      = .ok ⟨.str "In", [], [], [], []⟩ :=
    congrArg Noted.result readEntries_boxed
  have haccepted : (Occasion.description (.str "In") "in.json" boxedEntries).Accepted :=
    ⟨_, hread⟩
  have huncountable : ¬Countable (countedConstructs
      (Occasion.description (.str "In") "in.json" boxedEntries).notes) := by
    rw [Occasion.countedConstructs_notes haccepted]
    decide
  have hsource : sourceText (shelf boxed) ⟨.relative, ["in.json"]⟩
      = .ok "[\x7b\"type\":[\"x\"]\x7d]" := by
    cbv
  have hentries : descriptionEntries "[\x7b\"type\":[\"x\"]\x7d]" = .ok boxedEntries := by cbv
  obtain ⟨document, h, hover⟩ := generates_shelf hsource hentries hread
  obtain ⟨output, files, hreporting⟩ := exists_eq_reporting "abi2ts" read_shelfArguments h hover
  refine ⟨haccepted, fun line hline ↦ huncountable (exists_summaryLine_iff.mp ⟨line, hline⟩),
    fun verbose hnone ↦ huncountable (fault?_report_eq_none_iff.mp hnone), read_shelfArguments,
    document, h, hover, ?_⟩
  rw [hreporting]
  exact mt (Outcome.status_reporting _ _ _ _).1.mp huncountable

/-- The bytes of an entry whose kind is a number. -/
private def numbered : List UInt8 := [91, 123, 34, 116, 121, 112, 101, 34, 58, 55, 125, 93]

private def numberedEntries : List Json := [.obj [("type", .int 7)]]

private def numberedOccasion : Occasion := .description (.str "In") "in.json" numberedEntries

private theorem readEntries_numbered :
    Contract.readEntries (.str "In") "in.json" numberedEntries
      = ⟨[.unsupportedEntry (.int 7) (.str "") "in.json"], .ok ⟨.str "In", [], [], [], []⟩⟩ := by
  have hread : Declaration.readAll "in.json" numberedEntries
      = ([.skipped (.unsupportedEntry (.int 7) (.str "") "in.json")], none) :=
    rfl
  exact Contract.readEntries_of_none hread _

/-- An entry whose kind is a number is reported, and the run returns. Beside a file that is left
out, the same entry cannot be reported. -/
theorem reporting_completes_numbered :
    (∃ line, summaryLine ([numberedOccasion].flatMap Occasion.notes) = .ok line) ∧
    (∀ verbose, (report verbose ([numberedOccasion].flatMap Occasion.notes)).fault? = none) ∧
    (∀ verbose, (report verbose
      ([numberedOccasion, .skippedFile "" "a.json"].flatMap Occasion.notes)).fault? ≠ none) ∧
    (runProgram "abi2ts" (fun _ ↦ false) ["in.json"] (shelf numbered)).status = .ok 0 := by
  have hread : (Contract.readEntries (.str "In") "in.json" numberedEntries).result
      = .ok ⟨.str "In", [], [], [], []⟩ :=
    congrArg Noted.result readEntries_numbered
  have haccepted : numberedOccasion.Accepted := ⟨_, hread⟩
  obtain ⟨hline, hreport, hruns⟩ :=
    reporting_completes_iff (List.forall_mem_singleton.mpr haccepted) "abi2ts" (fun _ ↦ false)
      ["in.json"] (shelf numbered)
  obtain ⟨-, hbeside, -⟩ :=
    @reporting_completes_iff [numberedOccasion, .skippedFile "" "a.json"]
      (List.forall_mem_cons.mpr ⟨haccepted, List.forall_mem_singleton.mpr trivial⟩)
      "abi2ts" (fun _ ↦ false) ["in.json"] (shelf numbered)
  have hsource : sourceText (shelf numbered) ⟨.relative, ["in.json"]⟩
      = .ok "[\x7b\"type\":7\x7d]" := by
    cbv
  have hentries : descriptionEntries "[\x7b\"type\":7\x7d]" = .ok numberedEntries := by cbv
  obtain ⟨document, h, hover⟩ := generates_shelf hsource hentries hread
  have hstatus := hruns shelfArguments _ "" _ read_shelfArguments h hover
  refine ⟨hline.mpr (by decide), fun verbose ↦ (hreport verbose).mpr (by decide),
    fun verbose ↦ mt (hbeside verbose).mp (by decide), hstatus.1.mpr ?_⟩
  rw [readEntries_numbered]
  decide

end CommandLine

end AbiTypings
