import AbiTypings.Contract.Basic
import AbiTypings.Diagnostic.Basic
import AbiTypings.EvmType.Reading

/-!
# Entries of an interface description

An entry is an object whose `type` tells what it declares; without one it declares a function. A
function that only reads the state is an accessor if it has no inputs and a single output, and a
constant function otherwise. Constructors and the functions that receive payments cannot be called
by name; they are noted and left out, and so is everything of an unknown kind.
-/

namespace AbiTypings

/-! ## Parts of an entry -/

def Parameter.readType (raw : Json) : Except Fault EvmType := do
  let type ← raw.require "type"
  EvmType.read type (← raw.get "components")

def Parameter.read (raw : Json) : Except Fault Parameter :=
  match raw with
  | .obj _ => do
    let name ← raw.get "name"
    let type ← Parameter.readType raw
    return ⟨name.orElse .null, type⟩
  | v => .error (.notParameter v)

/-- Reads inputs or outputs. A value that says nothing stands for none. -/
def Parameter.readAll (raw : Json) : Except Fault (List Parameter) := do
  (← (raw.orElse (.arr [])).elements).mapM Parameter.read

def EventParameter.read (raw : Json) : Except Fault EventParameter := do
  let name ← raw.get "name"
  let type ← Parameter.readType raw
  let indexed ← raw.get "indexed"
  return { name := name.orElse .null, type := type, indexed := indexed.truthy }

def Method.read (entry : Json) : Except Fault Method := do
  let name ← entry.require "name"
  let inputs ← Parameter.readAll (← entry.get "inputs")
  let outputs ← Parameter.readAll (← entry.get "outputs")
  return ⟨name, inputs, outputs⟩

/-- Whether a value is one of the given texts. -/
def Json.isText (v : Json) (texts : List Text) : Bool :=
  match v with
  | .str s => texts.contains s
  | _ => false

def Function.read (entry : Json) : Except Fault Function := do
  let payable ← entry.get "payable"
  let mutability ← entry.get "stateMutability"
  let method ← Method.read entry
  return { toMethod := method, payable := payable.truthy || mutability.isText ["payable"] }

def Accessor.read (entry : Json) : Except Fault Accessor := do
  let name ← entry.require "name"
  let output ← Parameter.read (← (← entry.require "outputs").first)
  return ⟨name, output⟩

/-- Reads an event. The arguments are read before the name is asked for. -/
def Event.read (entry : Json) : Except Fault Event := do
  let raw ← entry.get "inputs"
  let inputs ← (← (raw.orElse (.arr [])).elements).mapM EventParameter.read
  let name ← entry.require "name"
  let anonymous ← entry.get "anonymous"
  return ⟨name, inputs, anonymous.truthy⟩

/-! ## Classification -/

/-- What an entry declares. -/
inductive EntryClass where
  /-- A method that changes the state. -/
  | function
  /-- A method that only reads the state and is no accessor. -/
  | constantFunction
  /-- An accessor. -/
  | accessor
  /-- An event. -/
  | event
  /-- Something that cannot be called by name, of the kind given. -/
  | ignored (kind : String)
  /-- Something unknown. -/
  | unsupported
deriving DecidableEq, Repr

/-- Whether a function only reads the state, by its flag or by its mutability. -/
def isConstant (entry : Json) : Except Fault Bool := do
  let constant ← entry.get "constant"
  let mutability ← entry.get "stateMutability"
  return constant.truthy || mutability.isText ["view", "pure"]

/-- Whether a function has no inputs and a single output. -/
def isSingleValue (entry : Json) : Except Fault Bool := do
  let inputs ← entry.get "inputs"
  if inputs.truthy then return false
  let outputs ← entry.get "outputs"
  return (← (outputs.orElse (.arr [])).size) == 1

/-- The kind of an entry. -/
def entryKind (entry : Json) : Except Fault Json := do
  return (← entry.member? "type").getD (.str "function")

/-- What an entry declares. -/
def classify (entry : Json) : Except Fault EntryClass := do
  let kind ← entryKind entry
  match kind.string? with
  | some "function" =>
    if ← isConstant entry then
      return if ← isSingleValue entry then .accessor else .constantFunction
    else return .function
  | some "event" => return .event
  | some "constructor" => return .ignored "constructor"
  | some "fallback" => return .ignored "fallback"
  | some "receive" => return .ignored "receive"
  | _ => return .unsupported

/-! ## Declarations -/

/-- What becomes of an entry. -/
inductive Declaration where
  /-- A method that changes the state. -/
  | function (f : Function)
  /-- A method that only reads the state and is no accessor. -/
  | constantFunction (m : Method)
  /-- An accessor. -/
  | accessor (a : Accessor)
  /-- An event. -/
  | event (e : Event)
  /-- Nothing but a note. -/
  | skipped (d : Diagnostic)

/-- Reads an entry as a declaration of its class. -/
def Declaration.readAs (filePath : Text) (entry : Json) :
    EntryClass → Except Fault Declaration
  | .function => (Function.read entry).map .function
  | .constantFunction => (Method.read entry).map .constantFunction
  | .accessor => (Accessor.read entry).map .accessor
  | .event => (Event.read entry).map .event
  | .ignored kind => .ok (.skipped (.ignoredEntry (.str kind) filePath))
  | .unsupported => do
    let kind ← entryKind entry
    let name := (← entry.member? "name").getD (.str "")
    return .skipped (.unsupportedEntry kind name filePath)

def Declaration.read (filePath : Text) (entry : Json) : Except Fault Declaration :=
  match entry with
  | .obj _ => do Declaration.readAs filePath entry (← classify entry)
  | v => .error (.notEntry v)

end AbiTypings
