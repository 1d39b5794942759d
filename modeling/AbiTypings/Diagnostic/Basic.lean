import AbiTypings.Json.Text

/-!
# Diagnostics

Notes on what a run left out: entries of a description that have no typings, and whole files. Each
has a code, and a construct by which notes are grouped in a summary.
-/

namespace AbiTypings

/-- How much a note matters. -/
inductive Severity where
  /-- Something is missing from the typings. -/
  | warning
  /-- Nothing is missing. -/
  | info
deriving DecidableEq, Repr

def Severity.text : Severity → String
  | warning => "warning"
  | info => "info"

/-- A note on something that was left out. -/
structure Diagnostic where
  /-- How much it matters. -/
  severity : Severity
  /-- The code of its kind. -/
  code : String
  /-- What was left out and why. -/
  message : Text
  /-- The file it is about, empty if there is none. -/
  filePath : Text
  /-- What it is grouped by. -/
  construct : Json

namespace Diagnostic

def line (d : Diagnostic) : Text :=
  let place : Text := if d.filePath.isEmpty then "" else d.filePath ++ ": "
  "[" ++ d.severity.text ++ "] " ++ place ++ d.message ++ " (" ++ d.code ++ ")"

def isWarning (d : Diagnostic) : Bool := d.severity == .warning

/-- An entry that cannot be called as a method. -/
def ignoredEntry (kind : Json) (filePath : Text) : Diagnostic where
  severity := .info
  code := "I001"
  message := kind.display ++ " entry has no method binding and was skipped."
  filePath := filePath
  construct := kind

/-- An entry of an unknown kind, with its name if it has one. -/
def unsupportedEntry (kind name : Json) (filePath : Text) : Diagnostic where
  severity := .warning
  code := "W001"
  message := "Unsupported ABI entry: " ++ kind.display ++
    if name.truthy then " (" ++ name.display ++ ")" else ""
  filePath := filePath
  construct := kind

/-- A file without typings, with the reason. -/
def skippedFile (reason filePath : Text) : Diagnostic where
  severity := .warning
  code := "W002"
  message := "No typings generated: " ++ reason
  filePath := filePath
  construct := .str "file"

/-- A file whose output path belongs to an earlier file. -/
def outputCollision (outputPath filePath : Text) : Diagnostic where
  severity := .warning
  code := "W003"
  message := "Output path already generated, file skipped: " ++ outputPath
  filePath := filePath
  construct := .str "file"

end Diagnostic

end AbiTypings
