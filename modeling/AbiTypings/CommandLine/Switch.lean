import AbiTypings.Text.Digit
import AbiTypings.Text.Quoted

/-!
# Switches

The switches of the command line and how written arguments are told apart. A switch has one or two
names; a long name may be cut short as long as it belongs to one switch only. A value is attached to
a switch by an equals sign, or directly if the name is short, or it is the next argument.

A dash alone, a negative number, and an argument with a space that names no switch are plain
arguments, and so is everything behind a double dash.
-/

namespace AbiTypings.CommandLine

/-- A switch. -/
inductive Switch where
  /-- Shows the help text. -/
  | help
  /-- Gives the directory typings are written to. -/
  | output
  /-- Prints typings instead of writing them. -/
  | stdout
  /-- Gives the search pattern for the files of a directory. -/
  | pattern
  /-- Prints every diagnostic. -/
  | verbose
deriving DecidableEq, Repr

def Switch.names : Switch → List String
  | help => ["-h", "--help"]
  | output => ["-o", "--output"]
  | stdout => ["--stdout"]
  | pattern => ["--pattern"]
  | verbose => ["-v", "--verbose"]

def Switch.hasValue : Switch → Bool
  | output => true
  | pattern => true
  | _ => false

def switches : List Switch := [.help, .output, .stdout, .pattern, .verbose]

def switchNames : List (String × Switch) :=
  switches.flatMap fun s ↦ s.names.map fun name ↦ (name, s)

/-! ## Faults -/

/-- Why arguments cannot be used. -/
inductive UsageFault where
  /-- A name was cut so short that it belongs to several switches. -/
  | ambiguous (argument : String) (names : List String)
  /-- A switch lacks its value. -/
  | missingValue (s : Switch)
  /-- A switch without a value got one. -/
  | needlessValue (s : Switch) (value : String)
  /-- There is no input. -/
  | missingInput
  /-- Some arguments mean nothing. -/
  | unrecognized (arguments : List String)
deriving DecidableEq, Repr

def UsageFault.message : UsageFault → Text
  | ambiguous argument names =>
    "ambiguous option: " ++ argument ++ " could match " ++ ", ".intercalate names
  | missingValue s => "argument " ++ "/".intercalate s.names ++ ": expected one argument"
  | needlessValue s value =>
    "argument " ++ "/".intercalate s.names ++ ": ignored explicit argument " ++ Text.quote value
  | missingInput => "the following arguments are required: input"
  | unrecognized arguments => "unrecognized arguments: " ++ " ".intercalate arguments

/-! ## Telling arguments apart -/

/-- What an argument is. -/
inductive Word where
  /-- A plain argument. -/
  | plain (text : String)
  /-- The double dash. -/
  | marker
  /-- A switch under a short or a long name, with the text attached to it. -/
  | switch (s : Switch) (long : Bool) (attached? : Option (List Char))
  /-- A switch that is not known. -/
  | unknown (text : String)
deriving DecidableEq, Repr

def switch? (name : List Char) : Option Switch := switchNames.lookup (String.ofList name)

def isLong (name : List Char) : Bool := "--".toList.isPrefixOf name

/-- An argument up to its first equals sign, and the value after it. -/
def splitEquals (s : List Char) : List Char × Option (List Char) :=
  match s.dropWhile (· ≠ '=') with
  | [] => (s, none)
  | _ :: value => (s.takeWhile (· ≠ '='), some value)

/-- Whether a text is a dash and an integer or a dash and a number with a point. One line feed may
follow. -/
def isNegativeNumber (s : List Char) : Bool :=
  match s with
  | '-' :: s =>
    let s := if s.getLast? = some '\n' then s.dropLast else s
    let whole := s.takeWhile fun (c : Char) ↦ Text.isDecimalDigit c
    match s.drop whole.length with
    | [] => !whole.isEmpty
    | '.' :: fraction => !fraction.isEmpty && fraction.all fun (c : Char) ↦ Text.isDecimalDigit c
    | _ => false
  | _ => false

/-- What an argument is that starts with a dash and names no switch in full. -/
def readPartial (s : List Char) : Except UsageFault Word :=
  let (name, value?) := splitEquals s
  let found :=
    if isLong s then
      switchNames.filterMap fun (full, w) ↦
        if name.isPrefixOf full.toList then
          some (full, Word.switch w true value?)
        else none
    else
      match switch? (s.take 2) with
      | some w => [(String.ofList (s.take 2), .switch w false (some (s.drop 2)))]
      | none => []
  match found with
  | [(_, word)] => .ok word
  | [] =>
    if isNegativeNumber s || s.contains ' ' then .ok (.plain (String.ofList s))
    else .ok (.unknown (String.ofList s))
  | _ => .error (.ambiguous (String.ofList s) (found.map (·.1)))

/-- What an argument is, the double dash apart. -/
def readWord (argument : String) : Except UsageFault Word :=
  let s := argument.toList
  if s.head? ≠ some '-' then .ok (.plain argument)
  else
    match switch? s with
    | some w => .ok (.switch w (isLong s) none)
    | none =>
      if s.length = 1 then .ok (.plain argument)
      else
        let (name, value?) := splitEquals s
        match switch? name, value? with
        | some w, some value => .ok (.switch w (isLong name) (some value))
        | _, _ => readPartial s

/-- What the arguments are. -/
def readWords : List String → Except UsageFault (List Word)
  | [] => .ok []
  | argument :: rest =>
    if argument = "--" then .ok (.marker :: rest.map .plain)
    else do return (← readWord argument) :: (← readWords rest)

end AbiTypings.CommandLine
