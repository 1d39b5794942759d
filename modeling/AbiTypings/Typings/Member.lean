import AbiTypings.Contract.Basic
import AbiTypings.EvmType.Rendering
import AbiTypings.Typings.Layout

/-!
# Members of a class

One line for each method and accessor, and one block for each event. A call of a method is an object
of its own, whose type argument is the type of the result.
-/

namespace AbiTypings

open LayoutM

/-! ## Methods -/

/-- The parameter list of a method. -/
def renderInputs (inputs : List Parameter) : Except Fault Text :=
  (EvmType.renderFields .input 0 (inputs.map fun p ↦ (p.name, p.type))).map (Text.intercalate ", ")

def namedFields (outputs : List Parameter) (types : List Text) : List Text :=
  (outputs.zip types).filterMap fun (p, t) ↦
    if p.name.truthy then some (p.name.display ++ ": " ++ t) else none

/-- The fields of all outputs under their places. -/
def placedFields (types : List Text) : List Text :=
  types.zipIdx.map fun (t, i) ↦ toString i ++ ": " ++ t

/-- The type of the result of a call: nothing, a single value, or a record in which every output has
a field under its place and the named ones also have one under their name. -/
def renderOutputs (outputs : List Parameter) : Except Fault Text :=
  match outputs with
  | [] => EvmType.void.render .output
  | [p] => p.type.render .output
  | outputs => do
    let types ← outputs.mapM fun p ↦ p.type.render .output
    return recordText (namedFields outputs types ++ placedFields types)

def methodLine (m : Method) : LayoutM Text := do
  let inputs ← MonadExcept.ofExcept (renderInputs m.inputs)
  let outputs ← MonadExcept.ofExcept (renderOutputs m.outputs)
  line (m.name.display ++ "(" ++ inputs ++ "): TransactionObject<" ++ outputs ++ ">;")

def accessorLine (a : Accessor) : LayoutM Text := do
  let output ← MonadExcept.ofExcept (a.output.type.render .output)
  line (a.name.display ++ "(): TransactionObject<" ++ output ++ ">;")

/-! ## Events -/

/-- The lines of the parameters of a subscription, one level deeper than the current one. -/
def subscriptionLines : LayoutM (List Text) :=
  indented do
    let opening ← line "options?: \x7b"
    let options ← indented
      (List.mapM line ["filter?: object;", "fromBlock?: Block;", "topics?: (null | string)[];"])
    let closing ← line "\x7d,"
    let callback ← line "cb?: Callback<EventLog>"
    return opening :: options ++ [closing, callback]

def eventBlock (e : Event) : LayoutM Text := do
  let opening ← line (e.name.display ++ "(")
  let parameters ← subscriptionLines
  let closing ← line "): EventEmitter;"
  return joinLines (opening :: parameters ++ [closing])

def allEventsBlock : LayoutM Text := do
  let opening ← line "allEvents: ("
  let parameters ← subscriptionLines
  let closing ← line ") => EventEmitter;"
  return joinLines (opening :: parameters ++ [closing])

end AbiTypings
