import AbiTypings.CommandLine.Arguments
import AbiTypings.Session.Generation

/-!
# The program

A run of the program on files: what it prints, what it writes, and its status. The input is a file,
or a directory of files; anything else is refused with status one. Arguments that cannot be used end
with status two, the help text with status zero.
-/

namespace AbiTypings.CommandLine

/-! ## Fixed texts -/

/-- How the program is called. -/
def usageText (program : String) : String :=
  "usage: " ++ program ++ " [-h] [-o OUTPUT] [--stdout] [--pattern PATTERN] [-v] input\n"

/-- The help text behind the usage. -/
def helpLines : List String :=
  ["",
   "Contract ABI to web3 TypeScript typings generator",
   "",
   "positional arguments:",
   "  input                 Input ABI JSON file or directory",
   "",
   "options:",
   "  -h, --help            show this help message and exit",
   "  -o OUTPUT, --output OUTPUT",
   "                        Output directory",
   "  --stdout              Print to stdout instead of file",
   "  --pattern PATTERN     Glob pattern for ABI files when input is a directory",
   "  -v, --verbose         Print every diagnostic, not only the summary"]

def helpText (program : String) : String :=
  usageText program ++ String.join (helpLines.map (· ++ "\n"))

/-! ## A run -/

/-- What stays fixed during the run that is asked for. -/
def Arguments.settings (a : Arguments) : Except Fault Settings :=
  match a.output? with
  | some output => .ok ⟨Path.read output, a.pattern?, a.verbose⟩
  | none => .error .noOutputDirectory

/-- Hands typings over: prints them, or writes them to their paths. -/
def Arguments.deliver (a : Arguments) (outputs : Outputs) : SessionM Unit :=
  if a.stdout then outputs.forM fun (_, text) ↦ SessionM.print text
  else SessionM.writeOutputs outputs

/-- The typings of the input with their paths, if there is such an input. -/
def Arguments.generate (a : Arguments) : SessionM (Option Outputs) := do
  let settings ← MonadExcept.ofExcept a.settings
  let input := Path.read a.input
  if ← SessionM.inspect fun files ↦ files.hasFile input then
    let text ← SessionM.generateFile input
    let path ← MonadExcept.ofExcept (outputPath settings.outputDirectory input)
    return some [(path.text, text)]
  else if ← SessionM.inspect fun files ↦ files.hasDirectory input then
    return some (← SessionM.generateDirectory settings input)
  else return none

/-- Carries out what the arguments ask for and gives the status. -/
def Arguments.run (a : Arguments) : SessionM Nat := do
  match ← a.generate with
  | some outputs =>
    a.deliver outputs
    SessionM.printReport a.verbose
    return 0
  | none =>
    SessionM.print ("Error: " ++ a.input ++ " is not a valid file or directory")
    return 1

/-- How a run ended. -/
structure Outcome where
  /-- The status, or the fault that cut the run off. -/
  status : Except Fault Nat
  /-- What was printed on standard output. -/
  output : Text
  /-- What was printed on standard error. -/
  errors : Text
  /-- The files afterwards. -/
  files : FileTree

def Outcome.ofResult : EStateM.Result Fault Session Nat → Outcome
  | .ok status s => ⟨.ok status, s.output, s.errors, s.files⟩
  | .error fault s => ⟨.error fault, s.output, s.errors, s.files⟩

/-- Runs the program under a name and before a console, with arguments, on files. -/
def runProgram (program : String) (console : Console) (arguments : List String)
    (files : FileTree) : Outcome :=
  match Arguments.read arguments with
  | .ok a => .ofResult (a.run.run ⟨files, console, "", "", []⟩)
  | .error .help => ⟨.ok 0, helpText program, "", files⟩
  | .error (.usage fault) =>
    ⟨.ok 2, "", usageText program ++ program ++ ": error: " ++ fault.message ++ "\n", files⟩

end AbiTypings.CommandLine
