import AbiTypings.Proofs.EvmType.Offenders
import AbiTypings.Proofs.Fault.Success
import Mathlib.Data.List.Find
import Mathlib.Logic.Basic

/-!
# The two directions of a type

A type has one rendering for values that are passed and one for values that are returned. Both are
the same text up to the scalars: `EvmType.skeleton` is the text without a direction, with a place
for every scalar, and a rendering fills the places with what its direction has for the scalars
(`EvmType.toOption_render`).

The directions support the same nodes, void apart, and void can only be returned. So a type that has
a rendering as an argument has one as a result, and without void it is the other way round as well.
Renderings that fail do so at the first node their direction does not support, in the order of
`EvmType.nodes`; without void that is the same node in both directions.
-/

namespace AbiTypings

/-! ## Skeletons -/

/-- A piece of a rendering: signs that are the same in both directions, or a place for a scalar. -/
inductive Piece where
  /-- Brackets, separators and names. -/
  | signs (s : Text)
  /-- The place of a scalar. -/
  | scalar (t : EvmType)

/-- The text of a piece in a direction, if the direction has one. -/
def Piece.text? (d : Direction) : Piece → Option Text
  | signs s => some s
  | scalar t => t.leaf? d

/-- The text of several pieces in a row, if the direction has one for each of them. -/
def fill? (d : Direction) : List Piece → Option Text
  | [] => some ""
  | piece :: pieces => do
    let s ← piece.text? d
    let rest ← fill? d pieces
    return s ++ rest

/-- The pieces of a record with fields of the given pieces. -/
def recordPieces (fields : List (List Piece)) : List Piece :=
  if fields.isEmpty then [.signs "\x7b\x7d"]
  else .signs "\x7b " :: ([.signs ", "].intercalate fields ++ [.signs " \x7d"])

namespace EvmType

mutual

/-- The rendering of a type with places in it where the scalars go. -/
def skeleton : EvmType → List Piece
  | array item _ => .signs "(" :: (skeleton item ++ [.signs ")[]"])
  | tuple components => recordPieces (skeletonFields 0 components)
  | t => [.scalar t]

/-- The fields of components with places for scalars, the first of them at the place `index`. -/
def skeletonFields (index : Nat) : List (Json × EvmType) → List (List Piece)
  | [] => []
  | (name, t) :: rest =>
    (.signs (fieldName name index ++ ": ") :: skeleton t) :: skeletonFields (index + 1) rest

end

end EvmType

/-! ## Filling skeletons -/

section Filling

variable {d : Direction}

theorem toOption_map {α β : Type} (step : Except Fault α) (f : α → β) :
    (step.map f).toOption = step.toOption.map f := by
  cases step <;> rfl

theorem fill?_append (pieces rest : List Piece) :
    fill? d (pieces ++ rest)
      = (fill? d pieces).bind fun s ↦ (fill? d rest).map fun s' ↦ s ++ s' := by
  induction pieces with
  | nil => simp [fill?]
  | cons piece pieces ih =>
    rw [List.cons_append, fill?, fill?, ih]
    cases piece.text? d <;> cases fill? d pieces <;> cases fill? d rest <;>
      simp [Text.append_assoc]

theorem fill?_signs_cons (s : Text) (pieces : List Piece) :
    fill? d (.signs s :: pieces) = (fill? d pieces).map fun rest ↦ s ++ rest := by
  rw [fill?]
  cases fill? d pieces <;> rfl

theorem fill?_enclosed (before after : Text) (pieces : List Piece) :
    fill? d (.signs before :: (pieces ++ [.signs after]))
      = (fill? d pieces).map fun s ↦ before ++ s ++ after := by
  rw [fill?_signs_cons, fill?_append, fill?_signs_cons, fill?]
  cases fill? d pieces <;> simp [Text.append_assoc]

theorem fill?_intercalate (separator : Text) (fields : List (List Piece)) :
    fill? d ([.signs separator].intercalate fields)
      = (fields.mapM (fill? d)).map fun texts ↦ separator.intercalate texts := by
  induction fields with
  | nil => rfl
  | cons field fields ih =>
    cases fields with
    | nil =>
      rw [List.intercalate_singleton]
      cases hfield : fill? d field <;> simp [hfield]
    | cons next fields =>
      rw [List.intercalate_cons_cons, fill?_append, fill?_append, ih, fill?_signs_cons, fill?,
        List.mapM_cons (a := field), List.mapM_cons]
      cases fill? d field <;> cases fill? d next <;> cases fields.mapM (fill? d) <;>
        simp [Text.intercalate_cons_cons]

theorem fill?_recordPieces (fields : List (List Piece)) :
    fill? d (recordPieces fields) = (fields.mapM (fill? d)).map recordText := by
  rw [recordPieces]
  by_cases h : fields.isEmpty = true
  · obtain rfl := List.isEmpty_iff.mp h
    rfl
  · obtain ⟨field, rest, rfl⟩ := List.exists_cons_of_ne_nil (mt List.isEmpty_iff.mpr h)
    rw [if_neg h, fill?_enclosed, fill?_intercalate, Option.map_map, List.mapM_cons]
    cases fill? d field <;> cases rest.mapM (fill? d) <;> rfl

end Filling

namespace EvmType

variable {d : Direction}

mutual

/-- **Renderings are filled skeletons.** -/
theorem toOption_render : ∀ t : EvmType, (t.render d).toOption = fill? d t.skeleton
  | .array item size => by
    rw [render, skeleton, fill?_enclosed, toOption_map, toOption_render item]
    rfl
  | .tuple components => by
    rw [render, skeleton, fill?_recordPieces, toOption_map, toOption_renderFields 0 components]
  | .int _ | .uint _ | .address | .void | .bytes _ | .bool | .string | .bare | .variation _ _
  | .value _ => by cases d <;> rfl

theorem toOption_renderFields : ∀ (index : Nat) (components : List (Json × EvmType)),
    (renderFields d index components).toOption = (skeletonFields index components).mapM (fill? d)
  | _, [] => rfl
  | index, (name, t) :: rest => by
    rw [skeletonFields, List.mapM_cons, fill?_signs_cons, ← toOption_render t,
      ← toOption_renderFields (index + 1) rest, renderFields]
    cases t.render d with
    | error fault => rfl
    | ok s => cases renderFields d (index + 1) rest <;> rfl

end

/-! ## Supported nodes -/

/-- Void is the only node that makes a difference between the directions. -/
theorem supports_input_iff {t : EvmType} :
    Direction.input.supports t = true ↔ Direction.output.supports t = true ∧ t ≠ .void := by
  cases t <;> simp [Direction.supports]

theorem renders_iff_nodes {t : EvmType} :
    t.Renders d ↔ ∀ node ∈ t.nodes, d.supports node = true := by
  rw [renders_iff, sites, List.forall_mem_map]
  rfl

theorem firstOffender?_sites (t : EvmType) :
    firstOffender? (t.sites d) = t.nodes.find? fun node ↦ !d.supports node := by
  rw [firstOffender?, sites, List.find?_map, Option.map_map]
  exact Option.map_id'

theorem render_eq_error_iff {t : EvmType} {fault : Fault} : t.render d = .error fault ↔
    ∃ node, (t.nodes.find? fun node ↦ !d.supports node) = some node ∧
      fault = .unrecognizedType node := by
  rw [(examines_render t).eq_error_iff, firstOffender?_sites]

theorem find?_input_eq_output {t : EvmType} (h : ∀ node ∈ t.nodes, node ≠ .void) :
    (t.nodes.find? fun node ↦ !Direction.input.supports node)
      = t.nodes.find? fun node ↦ !Direction.output.supports node := by
  refine List.find?_congr fun node hnode ↦ ?_
  have hsame : Direction.input.supports node = Direction.output.supports node := by
    rw [Bool.eq_iff_iff, supports_input_iff]
    exact and_iff_left (h node hnode)
  rw [hsame]

/-- A record with a variation of an array in it, and with a node behind that is no type either. -/
private def voucher : EvmType :=
  tuple [(.str "amounts", array (uint 8) none), (.null, variation "Coupons" (array bool none)),
    (.str "last", bare)]

end EvmType

end AbiTypings
