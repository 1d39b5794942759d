import AbiTypings.Fault

/-!
# Types in TypeScript

A value may be passed in more forms than it is returned in: integers go in as numbers or texts,
since they may be too great for a number, and always come back as texts. So a type has one
rendering for each direction. The two differ at the leaves only, and no argument can be void.

Nodes that are no type of the machine have no rendering; the first one met, from left to right and
the outside in, is the fault.
-/

namespace AbiTypings

/-- Which way values travel. -/
inductive Direction where
  /-- From the caller to the contract. -/
  | input
  /-- From the contract to the caller. -/
  | output
deriving DecidableEq, Repr

/-- The name of a parameter or component, or `arg` and its place if the name says nothing. -/
def fieldLabel (name : Json) (index : Int) : Json := name.orElse (.str ("arg" ++ toString index))

/-- The text of the name of a parameter or component. -/
def fieldName (name : Json) (index : Nat) : Text := (fieldLabel name index).display

/-- A record type with the given fields. -/
def recordText (fields : List Text) : Text :=
  if fields.isEmpty then "\x7b\x7d" else "\x7b " ++ Text.intercalate ", " fields ++ " \x7d"

/-- An array type over an item type. The brackets keep the suffix from binding to a part of it. -/
def arrayText (item : Text) : Text := "(" ++ item ++ ")[]"

namespace EvmType

/-- The rendering of a type without parts. -/
def leaf? : Direction → EvmType → Option Text
  | .input, int _ => some "number | string"
  | .input, uint _ => some "number | string"
  | .input, address => some "string"
  | .input, bytes _ => some "string | number[]"
  | .input, bool => some "boolean"
  | .input, string => some "string"
  | .output, int _ => some "string"
  | .output, uint _ => some "string"
  | .output, address => some "string"
  | .output, void => some "void"
  | .output, bytes _ => some "string"
  | .output, bool => some "boolean"
  | .output, string => some "string"
  | _, _ => none

mutual

def render (d : Direction) : EvmType → Except Fault Text
  | array item _ => (render d item).map arrayText
  | tuple components => (renderFields d 0 components).map recordText
  | t =>
    match t.leaf? d with
    | some s => .ok s
    | none => .error (.unrecognizedType t)

/-- The renderings of components as fields of a record, the first of them at the place `index`. -/
def renderFields (d : Direction) (index : Nat) :
    List (Json × EvmType) → Except Fault (List Text)
  | [] => .ok []
  | (name, t) :: rest => do
    let s ← render d t
    return (fieldName name index ++ ": " ++ s) :: (← renderFields d (index + 1) rest)

end

/-- The components of a tuple or of a variation of one. -/
def components? : EvmType → Option (List (Json × EvmType))
  | tuple components => some components
  | variation _ base => base.components?
  | _ => none

/-- The rendering of a tuple or of a variation of one as a record. -/
def renderTuple (d : Direction) (t : EvmType) : Except Fault Text :=
  match t.components? with
  | some components => (renderFields d 0 components).map recordText
  | none => .error (.noComponents t.kindName)

end EvmType

end AbiTypings
