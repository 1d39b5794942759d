import AbiTypings.Contract.Entry

/-!
# Reading interface descriptions

A description is a sequence of entries, or an object that holds one under `abi`, as build tools
write it. Its entries are read in order. The first one that cannot be read is the fault of the
whole; notes on the entries before it remain.
-/

namespace AbiTypings

/-- The declarations of the entries before the first one that cannot be read, and its fault. -/
def Declaration.readAll (filePath : Text) : List Json → List Declaration × Option Fault
  | [] => ([], none)
  | entry :: entries =>
    match Declaration.read filePath entry with
    | .error fault => ([], some fault)
    | .ok d =>
      let (ds, fault?) := Declaration.readAll filePath entries
      (d :: ds, fault?)

def Declaration.function? : Declaration → Option Function
  | .function f => some f
  | _ => none

def Declaration.constantFunction? : Declaration → Option Method
  | .constantFunction m => some m
  | _ => none

def Declaration.accessor? : Declaration → Option Accessor
  | .accessor a => some a
  | _ => none

def Declaration.event? : Declaration → Option Event
  | .event e => some e
  | _ => none

/-- The note, if the entry was left out. -/
def Declaration.note? : Declaration → Option Diagnostic
  | .skipped d => some d
  | _ => none

def Contract.ofDeclarations (name : Json) (declarations : List Declaration) : Contract where
  name := name
  functions := declarations.filterMap Declaration.function?
  constantFunctions := declarations.filterMap Declaration.constantFunction?
  accessors := declarations.filterMap Declaration.accessor?
  events := declarations.filterMap Declaration.event?

/-- A result together with the notes recorded on the way to it. -/
structure Noted (α : Type) where
  /-- The notes in order. -/
  notes : List Diagnostic
  /-- The result. -/
  result : Except Fault α

/-- Reads the entries of a description. -/
def Contract.readEntries (name : Json) (filePath : Text) (entries : List Json) :
    Noted Contract :=
  let (declarations, fault?) := Declaration.readAll filePath entries
  { notes := declarations.filterMap Declaration.note?
    result := match fault? with
      | some fault => .error fault
      | none => .ok (Contract.ofDeclarations name declarations) }

theorem Contract.readEntries_of_none {filePath : Text} {entries : List Json}
    {ds : List Declaration} (h : Declaration.readAll filePath entries = (ds, none)) (name : Json) :
    Contract.readEntries name filePath entries
      = ⟨ds.filterMap Declaration.note?, .ok (Contract.ofDeclarations name ds)⟩ := by
  rw [Contract.readEntries, h]

theorem Contract.readEntries_of_some {filePath : Text} {entries : List Json}
    {ds : List Declaration} {fault : Fault}
    (h : Declaration.readAll filePath entries = (ds, some fault)) (name : Json) :
    Contract.readEntries name filePath entries
      = ⟨ds.filterMap Declaration.note?, .error fault⟩ := by
  rw [Contract.readEntries, h]

def Contract.read (name : Json) (filePath : Text) (description : Json) : Noted Contract :=
  match description.elements with
  | .error fault => { notes := [], result := .error fault }
  | .ok entries => Contract.readEntries name filePath entries

/-- The entries of the description in a JSON document. -/
def descriptionEntries (text : Text) : Except Fault (List Json) := do
  match ← (Json.read text).mapError Fault.json with
  | .arr entries => return entries
  | .obj members =>
    match members.lookup ("abi" : Text) with
    | some (.arr entries) => return entries
    | _ => .error .noDescription
  | _ => .error .noDescription

end AbiTypings
