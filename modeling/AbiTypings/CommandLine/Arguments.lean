import AbiTypings.CommandLine.Switch

/-!
# Arguments

What the arguments of the command line say. They are gone through from left to right: the first
plain argument is the input, and the last value of a switch counts. Short switches without values
may be written together behind one dash, and the last of them may have a value. A switch to which a
double dash is attached is left without a value.

The help text ends everything at once, faults further right included; a missing input is told before
arguments that mean nothing.
-/

namespace AbiTypings.CommandLine

/-- What a run is asked to do. -/
structure Arguments where
  /-- The file or directory to read. -/
  input : String
  /-- The directory typings are written to. -/
  output? : Option String
  /-- Whether typings are printed instead of being written. -/
  stdout : Bool
  /-- The search pattern for the files of a directory. -/
  pattern? : Option String
  /-- Whether every diagnostic is printed. -/
  verbose : Bool
deriving DecidableEq, Repr

/-- Why there is no run. -/
inductive Refusal where
  /-- The help text was asked for. -/
  | help
  /-- The arguments cannot be used. -/
  | usage (fault : UsageFault)
deriving DecidableEq, Repr

/-- What has been read of the arguments. -/
structure Reading where
  /-- The input. -/
  input? : Option String := none
  /-- The output directory. -/
  output? : Option String := some "types"
  /-- Whether typings are printed. -/
  stdout : Bool := false
  /-- The search pattern. -/
  pattern? : Option String := some "**/*.json"
  /-- Whether every diagnostic is printed. -/
  verbose : Bool := false
  /-- What means nothing. -/
  unrecognized : List String := []
deriving DecidableEq, Repr

/-! ## Switches written together -/

/-- What one argument says. -/
structure Cluster where
  /-- The switches in order, each with its value. -/
  settings : List (Switch × String)
  /-- The last switch, if its value is still to come. -/
  awaiting? : Option Switch := none
deriving DecidableEq, Repr

def Cluster.cons (s : Switch) (c : Cluster) : Cluster :=
  { c with settings := (s, "") :: c.settings }

def Cluster.bare (s : Switch) : Cluster :=
  if s.hasValue then { settings := [], awaiting? := some s } else { settings := [(s, "")] }

/-- Takes apart a short switch and the text attached to it: a value, or more short names. -/
def readCluster (s : Switch) (attached : List Char) : Except UsageFault Cluster :=
  if s.hasValue then .ok { settings := [(s, String.ofList attached)] }
  else
    match attached with
    | [] => .error (.needlessValue s "")
    | c :: rest =>
      match switch? ['-', c], rest with
      | none, _ => .error (.needlessValue s (String.ofList attached))
      | some next, [] => .ok ((Cluster.bare next).cons s)
      | some next, rest => (readCluster next rest).map (.cons s)

/-- Takes apart a switch and the text attached to it. -/
def readSwitch (s : Switch) (long : Bool) : Option (List Char) → Except UsageFault Cluster
  | none => .ok (.bare s)
  | some attached =>
    if long && !s.hasValue then .error (.needlessValue s (String.ofList attached))
    else readCluster s attached

/-! ## The whole -/

/-- The value that a text gives to a switch. A double dash gives none. -/
def valueOf? (text : String) : Option String := if text = "--" then none else some text

def Reading.set (r : Reading) (s : Switch) (value : String) : Except Refusal Reading :=
  match s with
  | .help => .error .help
  | .output => .ok { r with output? := valueOf? value }
  | .stdout => .ok { r with stdout := true }
  | .pattern => .ok { r with pattern? := valueOf? value }
  | .verbose => .ok { r with verbose := true }

/-- Takes note of what an argument says, where a value that was still to come is `next?`. -/
def Reading.setAll (r : Reading) (c : Cluster) (next? : Option String) :
    Except Refusal Reading := do
  let settings ← match c.awaiting?, next? with
    | none, _ => pure c.settings
    | some s, some value => pure (c.settings ++ [(s, value)])
    | some s, none => .error (.usage (.missingValue s))
  settings.foldlM (fun r (s, value) ↦ r.set s value) r

def Reading.addPlain (r : Reading) (text : String) : Reading :=
  match r.input? with
  | none => { r with input? := some text }
  | some _ => { r with unrecognized := r.unrecognized ++ [text] }

/-- Goes through arguments. A double dash beside the input says nothing further. -/
def Reading.run (r : Reading) : List Word → Except Refusal Reading
  | [] => .ok r
  | .plain text :: words =>
    match r.input?, words with
    | none, .marker :: words => (r.addPlain text).run words
    | _, words => (r.addPlain text).run words
  | .marker :: words =>
    match r.input?, words with
    | none, .plain text :: words => (r.addPlain text).run words
    | _, words => { r with unrecognized := r.unrecognized ++ ["--"] }.run words
  | .unknown text :: words => { r with unrecognized := r.unrecognized ++ [text] }.run words
  | .switch s long attached? :: words =>
    match readSwitch s long attached? with
    | .error fault => .error (.usage fault)
    | .ok cluster =>
      match cluster.awaiting?, words with
      | some _, .plain value :: words => do (← r.setAll cluster (some value)).run words
      | _, words => do (← r.setAll cluster none).run words

/-- What has been read as arguments. -/
def Reading.finish (r : Reading) : Except Refusal Arguments :=
  match r.input? with
  | none => .error (.usage .missingInput)
  | some input =>
    if r.unrecognized.isEmpty then .ok ⟨input, r.output?, r.stdout, r.pattern?, r.verbose⟩
    else .error (.usage (.unrecognized r.unrecognized))

def Arguments.read (arguments : List String) : Except Refusal Arguments := do
  let words ← (readWords arguments).mapError .usage
  let r ← Reading.run {} words
  r.finish

end AbiTypings.CommandLine
