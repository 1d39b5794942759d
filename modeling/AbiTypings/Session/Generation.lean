import AbiTypings.Contract.ClassName
import AbiTypings.Contract.Reading
import AbiTypings.Files.Search
import AbiTypings.Session.Basic
import AbiTypings.Typings.Document

/-!
# Generating typings

The typings of a text, of a file, and of the files of a directory, and writing them. A contract is
named after its file, and so are its typings.

A run over a directory goes through the files in order. A file whose typings would be written where
those of an earlier file go is passed over. A file that cannot be read as an interface description
is reported, and the run goes on. Files that were passed over and files that failed claim no place.
-/

namespace AbiTypings

/-- Typings with the paths they are written to. Every path occurs once. -/
abbrev Outputs := List (String × Text)

def typingsOfText (name : Json) (filePath text : Text) : Noted Text :=
  match descriptionEntries text with
  | .error fault => ⟨[], .error fault⟩
  | .ok entries =>
    let contract := Contract.readEntries name filePath entries
    ⟨contract.notes, contract.result >>= typings⟩

/-- Where the typings of a file are written. -/
def outputPath (outputDirectory file : Path) : Except Fault Path := do
  return outputDirectory.child ((← className file.stem) ++ ".d.ts")

/-- Bytes as text with unified line ends. -/
def readSource (bytes : List UInt8) : Except Fault String :=
  match Text.decode bytes with
  | .ok chars => .ok (String.ofList (Text.unifyLineEnds chars))
  | .error fault => .error (.encoding fault)

namespace SessionM

/-- Generates the typings of a document and records the notes on it. -/
def generateText (name : Json) (filePath text : Text) : SessionM Text := do
  let noted := typingsOfText name filePath text
  record noted.notes
  MonadExcept.ofExcept noted.result

def generateFile (file : Path) : SessionM Text := do
  let bytes ← inspect fun files ↦ files.read file
  let text ← MonadExcept.ofExcept (readSource bytes)
  let name ← MonadExcept.ofExcept (className file.stem)
  generateText (.str name) file.text text

/-- Generates the typings of the next file of a directory, unless their place is taken. -/
def generateNext (settings : Settings) (before : Outputs) (file : Path) : SessionM Outputs := do
  let path ← MonadExcept.ofExcept (outputPath settings.outputDirectory file)
  if (before.lookup path.text).isSome then
    print ("Skipping " ++ file.text ++ ": " ++ path.text ++ " already generated")
    record [.outputCollision path.text file.text]
    return before
  else
    let text ← generateFile file
    return before ++ [(path.text, text)]

/-- Reports a fault that lies in a file and goes on; other faults are passed on. -/
def containing (file : Path) (before : Outputs) (step : SessionM Outputs) : SessionM Outputs :=
  tryCatch step fun fault ↦
    if fault.isContained then do
      print ("Error generating " ++ file.text ++ ": " ++ fault.message)
      record [.skippedFile fault.message file.text]
      return before
    else throw fault

def generateDirectory (settings : Settings) (directory : Path) : SessionM Outputs := do
  let files ← inspect fun files ↦ files.search settings.pattern? directory
  files.foldlM (fun before file ↦
    containing file before (generateNext settings before file)) []

/-- Writes typings to their paths, with the directories on the way. -/
def writeOutputs (outputs : Outputs) : SessionM Unit :=
  outputs.forM fun (written, text) ↦ do
    let path := Path.read written
    ensureDirectories path.parent
    writeFile path text
    print ("Written: " ++ written)

end SessionM

end AbiTypings
