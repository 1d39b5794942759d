import AbiTypings.EvmType.Signature
import AbiTypings.Json.Access

/-!
# Reading types

A parameter gives its type as a signature and, if the base is a tuple, its components as a sequence
of objects. The signature is read first, and the components only if it asks for them.
-/

namespace AbiTypings

theorem Json.sizeOf_lookup_lt {members : List (Text × Json)} {key : Text} {v : Json}
    (h : members.lookup key = some v) : sizeOf v < sizeOf members := by
  induction members with
  | nil => simp at h
  | cons m ms ih =>
    obtain ⟨k, w⟩ := m
    rw [List.lookup_cons] at h
    simp only [List.cons.sizeOf_spec, Prod.mk.sizeOf_spec]
    split at h
    · simp only [Option.some.injEq] at h
      subst h
      omega
    · have := ih h
      omega

namespace EvmType

/-- The type of a base; the components are those of a tuple. -/
def ofBase (components : List (Json × EvmType)) : Signature.Base → EvmType
  | .bool => bool
  | .address => address
  | .string => string
  | .tuple => tuple components
  | .uint bits => uint bits
  | .int bits => int bits
  | .bytes size => bytes (size.map Int.ofNat)

/-- The arrays over a type with the given dimensions, innermost first. -/
def wrap (t : EvmType) (dimensions : List (Option Nat)) : EvmType :=
  dimensions.foldl (fun item size ↦ array item (size.map Int.ofNat)) t

/-- The signature of a value that stands for a type. -/
def signature (raw : Json) : Except Fault Signature :=
  match raw with
  | .str s => Signature.read s.toList
  | v => .error (.unknownType v.quoted)

mutual

/-- Reads a type from its signature and the components of its tuple. A value that says nothing
stands for no components. -/
def read (raw components : Json) : Except Fault EvmType := do
  let s ← signature raw
  let cs ← if s.base = .tuple ∧ components.truthy then readTuple components else pure []
  return (ofBase cs s.base).wrap s.dimensions
termination_by (sizeOf components, 1)

/-- Reads the components of a tuple. -/
def readTuple (components : Json) : Except Fault (List (Json × EvmType)) :=
  match components with
  | .arr items => readComponents items
  | v => do
    match ← v.elements with
    | [] => return []
    | part :: _ => .error (.shape (.noMembers part.kind))
termination_by (sizeOf components, 0)

def readComponents (items : List Json) : Except Fault (List (Json × EvmType)) := do
  match items with
  | [] => return []
  | .obj members :: rest =>
    let raw ← (Json.obj members).require "type"
    let t ← match h : members.lookup ("components" : Text) with
      | some nested =>
        have := Json.sizeOf_lookup_lt h
        read raw nested
      | none => read raw .null
    let name := (members.lookup ("name" : Text)).getD (.str "")
    return (name, t) :: (← readComponents rest)
  | v :: _ => .error (.shape (.noMembers v.kind))
termination_by (sizeOf items, 0)

end

end EvmType

end AbiTypings
