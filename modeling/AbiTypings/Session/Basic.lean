import AbiTypings.Diagnostic.Summary
import AbiTypings.Files.Tree

/-!
# Sessions

What a run changes as it goes: files, the two streams of output, and the diagnostics. A fault ends
the step that raised it, and everything done before it stays done.

Texts go out as bytes, and halves that stand alone have none. A file refuses them. What standard
output does with them is up to whoever runs the program: a stream that is kept in memory takes them
all, one with strict encoding none, and one that lets bytes of other encodings through takes those
that stand for bytes. Standard error writes them as escape sequences and refuses nothing.
-/

namespace AbiTypings

/-- What stays fixed during a run. -/
structure Settings where
  /-- The directory typings are written to. -/
  outputDirectory : Path
  /-- The search pattern for the files of a directory. -/
  pattern? : Option String
  /-- Whether every diagnostic is printed. -/
  verbose : Bool

/-- Which halves standard output takes. -/
abbrev Console := Half → Bool

/-- What a run changes. -/
structure Session where
  /-- The files. -/
  files : FileTree
  /-- Standard output, which stays as it is. -/
  console : Console
  /-- What was printed on standard output. -/
  output : Text
  /-- What was printed on standard error. -/
  errors : Text
  /-- The diagnostics so far. -/
  diagnostics : List Diagnostic

/-- A step of a run. A fault leaves what was done before it. -/
abbrev SessionM := EStateM Fault Session

namespace SessionM

def print (line : Text) : SessionM Unit := do
  match Text.refused? (← get).console 0 line.toList with
  | some fault => throw (.lone fault)
  | none => modify fun s ↦ { s with output := s.output ++ line ++ "\n" }

/-- Prints lines on standard error. -/
def complain (lines : List Text) : SessionM Unit :=
  modify fun s ↦ { s with errors := s.errors ++ Text.join (lines.map (· ++ "\n")) }

def record (ds : List Diagnostic) : SessionM Unit :=
  modify fun s ↦ { s with diagnostics := s.diagnostics ++ ds }

def forget : SessionM Unit := modify fun s ↦ { s with diagnostics := [] }

/-- Looks something up in the files. -/
def inspect {α : Type} (query : FileTree → Except Fault α) : SessionM α := do
  MonadExcept.ofExcept (query (← get).files)

/-- Makes a directory with those on the way to it. -/
def ensureDirectories (p : Path) : SessionM Unit := do
  let (files, fault?) := (← get).files.ensureDirectories p
  modify fun s ↦ { s with files := files }
  match fault? with
  | some fault => throw fault
  | none => return ()

/-- Writes a text to a file. The file is emptied first, and a text without bytes leaves it so. -/
def writeFile (p : Path) (text : Text) : SessionM Unit := do
  let bytes := text.encode
  let files ← inspect fun files ↦ files.write p (bytes.toOption.getD [])
  modify fun s ↦ { s with files := files }
  match bytes with
  | .ok _ => return ()
  | .error fault => throw (.lone fault)

/-- Prints the report on the diagnostics on standard error. -/
def printReport (verbose : Bool) : SessionM Unit := do
  let r := report verbose (← get).diagnostics
  complain r.lines
  match r.fault? with
  | some fault => throw fault
  | none => return ()

end SessionM

end AbiTypings
