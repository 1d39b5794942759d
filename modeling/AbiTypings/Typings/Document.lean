import AbiTypings.Typings.Member

/-!
# Typings documents

A document has four parts with a blank line between each two: a header, imports, the declarations
every class relies on, and the class of the contract. The class lists its methods (constant
functions, functions, accessors) and its events, then the subscription to all of them.
-/

namespace AbiTypings

open LayoutM

/-! ## Fixed parts -/

def headerText : Text := "/* Generated by abi2ts. Do not edit. */\n/* tslint:disable */\n"

/-- The modules a document imports from, with the names it takes from each. -/
def importedNames : List (Text × List Text) :=
  [("web3-eth-contract", ["Contract", "ContractOptions"]),
   ("web3-core", ["Transaction", "EventLog", "PromiEvent"]),
   ("web3-eth", ["Block"]),
   ("events", ["EventEmitter"])]

def importText : Text :=
  joinLines (importedNames.map (fun (module, names) ↦
    "import " ++ recordText names ++ " from \"" ++ module ++ "\";") ++ [("" : Text)])

/-- The type of a function that is called with a result. -/
def callbackText : Text := "export type Callback<T> = (error: Error, result: T) => void;\n"

/-- The type of a call that has been prepared. -/
def transactionBlock : LayoutM Text := do
  let members ← indented
    (List.mapM line ["arguments: any[];", "call(tx?: Transaction): Promise<T>;",
      "send(tx?: Transaction): PromiEvent<T>;",
      "estimateGas(tx?: Transaction): Promise<number>;", "encodeABI(): string;"])
  return joinLines
    (("interface TransactionObject<T> \x7b" : Text) :: members ++ [("\x7d\n" : Text)])

def preambleBlock : LayoutM Text := do
  let transaction ← transactionBlock
  return joinLines [callbackText, transaction]

/-! ## The class -/

def methodLines (c : Contract) : LayoutM (List Text) := do
  let constantFunctions ← c.constantFunctions.mapM methodLine
  let functions ← c.functions.mapM fun f ↦ methodLine f.toMethod
  let accessors ← c.accessors.mapM accessorLine
  return constantFunctions ++ functions ++ accessors

def eventLines (c : Contract) : LayoutM (List Text) := do
  let events ← c.events.mapM eventBlock
  let all ← allEventsBlock
  return events ++ [all]

def classBlock (c : Contract) : LayoutM Text := do
  let members ← indented do
    let construct ←
      line "constructor(jsonInterface: any[], address?: string, options?: ContractOptions);"
    let openMethods ← line "methods: \x7b"
    let methods ← indented (methodLines c)
    let closeMethods ← line "\x7d;"
    let openEvents ← line "events: \x7b"
    let events ← indented (eventLines c)
    let closeEvents ← line "\x7d;"
    let clone ← line ("clone(): " ++ c.name.display ++ ";")
    return [construct, openMethods] ++ methods ++ [closeMethods, openEvents] ++ events ++
      [closeEvents, clone]
  return joinLines
    (("export class " ++ c.name.display ++ " extends Contract \x7b") :: members
      ++ [("\x7d" : Text)])

/-! ## The document -/

/-- The document of a contract, from level zero on. -/
def documentText (c : Contract) : LayoutM Text := do
  setLevel 0
  let preamble ← preambleBlock
  let body ← classBlock c
  return joinLines [headerText, importText, preamble, body] ++ "\n"

def typings (c : Contract) : Except Fault Text :=
  match (documentText c).run {} with
  | .ok text _ => .ok text
  | .error fault _ => .error fault

end AbiTypings
