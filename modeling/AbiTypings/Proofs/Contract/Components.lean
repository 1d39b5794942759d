import AbiTypings.Proofs.Contract.Classification
import AbiTypings.Proofs.EvmType.Grammar

/-!
# Parameters and their components

A parameter whose type is a tuple lists components, and each of them gives its type as a parameter
does, possibly with components of its own. The reader walks down these lists by three functions that
call each other. Here the walk is taken apart once: components are read one by one
(`EvmType.readComponents_eq_mapM`), and the type of a parameter is what its signature makes of the
components it lists (`Parameter.readType_of_signature?`).

The parts of a parameter are smaller than the parameter, so what holds of parameters at every depth
is proved by induction on their size, with one step from a parameter to its parts.
-/

namespace AbiTypings

/-! ## Lists -/

namespace Json

/-- A value is a list or says nothing. -/
def IsListed (v : Json) : Prop := v = .arr v.items ∨ v.truthy = false

theorem IsListed.orElse_eq {v : Json} (h : v.IsListed) : v.orElse (.arr []) = .arr v.items := by
  by_cases htruthy : v.truthy = true
  · rw [orElse, if_pos htruthy]
    exact h.resolve_right (by rw [htruthy]; decide)
  · rw [orElse, if_neg htruthy, items_eq_nil_of_truthy_eq_false (Bool.not_eq_true _ ▸ htruthy)]

theorem sizeOf_lt_of_mem_items {v part : Json} {key : Text}
    (h : part ∈ (v.memberOr key .null).items) : sizeOf part < sizeOf v := by
  cases v with
  | obj members =>
    rw [memberOr] at h
    cases hlookup : members.lookup key with
    | none =>
      rw [hlookup] at h
      exact absurd h List.not_mem_nil
    | some w =>
      rw [hlookup, Option.getD_some] at h
      have hlt := sizeOf_lookup_lt hlookup
      cases w with
      | arr items =>
        have hmem : part ∈ items := h
        have := List.sizeOf_lt_of_mem hmem
        simp only [arr.sizeOf_spec] at hlt
        simp only [obj.sizeOf_spec]
        omega
      | _ => exact absurd h List.not_mem_nil
  | _ => exact absurd h List.not_mem_nil

end Json

/-! ## Parts of a parameter -/

namespace Parameter

/-- The signature of the type of a parameter. -/
def signature? (v : Json) : Option Signature :=
  (EvmType.signature (v.memberOr "type" .null)).toOption

/-- Whether the type of a parameter is a tuple or an array over one. -/
def isTuple (v : Json) : Bool := (signature? v).any (·.base = .tuple)

/-- The components of a parameter; only a tuple has any. -/
def parts (v : Json) : List Json :=
  if isTuple v then (v.memberOr "components" .null).items else []

theorem sizeOf_lt_of_mem_parts {v part : Json} (h : part ∈ parts v) : sizeOf part < sizeOf v := by
  rw [parts] at h
  split at h
  · exact Json.sizeOf_lt_of_mem_items h
  · exact absurd h List.not_mem_nil

theorem signature?_eq_some_iff {v : Json} {sig : Signature} :
    signature? v = some sig ↔ EvmType.signature (v.memberOr "type" .null) = .ok sig := by
  rw [signature?]
  cases EvmType.signature (v.memberOr "type" .null) with
  | ok other => simp [Except.toOption]
  | error fault => simp [Except.toOption]

theorem require_of_signature? {members : List (Text × Json)} {sig : Signature}
    (h : signature? (.obj members) = some sig) :
    (Json.obj members).require "type" = .ok ((Json.obj members).memberOr "type" .null) := by
  rw [Json.require, Json.memberOr]
  rw [signature?_eq_some_iff, Json.memberOr] at h
  cases hlookup : members.lookup ("type" : Text) with
  | none =>
    rw [hlookup] at h
    cases h
  | some raw => rfl

end Parameter

/-- Reads a component of a tuple. -/
def Component.read (raw : Json) : Except Fault (Json × EvmType) :=
  match raw with
  | .obj _ => (Parameter.readType raw).map fun t ↦ (raw.memberOr "name" (.str ""), t)
  | v => .error (.shape (.noMembers v.kind))

theorem EvmType.readComponents_eq_mapM (items : List Json) :
    readComponents items = items.mapM Component.read := by
  induction items with
  | nil =>
    rw [readComponents]
    rfl
  | cons item rest ih =>
    cases item with
    | obj members =>
      have hnamed : ∀ (name : Json) (step : Except Fault EvmType),
          (step >>= fun t ↦ rest.mapM Component.read >>= fun cs ↦ pure ((name, t) :: cs))
            = (step.map fun t ↦ (name, t)) >>= fun c ↦
                rest.mapM Component.read >>= fun cs ↦ pure (c :: cs) := by
        intro name step
        cases step <;> rfl
      rw [readComponents, List.mapM_cons, ih, Component.read, Parameter.readType]
      cases hraw : (Json.obj members).require "type" with
      | error fault => rfl
      | ok raw =>
        rw [Json.get]
        dsimp only
        split
        · next nested hnested =>
          rw [hnested]
          exact hnamed _ (read raw nested)
        · next hnested =>
          rw [hnested]
          exact hnamed _ (read raw .null)
    | _ =>
      rw [readComponents.eq_def]
      rfl

theorem EvmType.readTuple_of_isListed {v : Json} (h : v.IsListed) :
    readTuple (v.orElse (.arr [])) = v.items.mapM Component.read := by
  rw [h.orElse_eq, readTuple, readComponents_eq_mapM]

/-- What is read as components is a list or says nothing: the parts of texts and objects are texts,
and those have no members. -/
theorem EvmType.isListed_of_readTuple {v : Json} {cs : List (Json × EvmType)}
    (h : readTuple (v.orElse (.arr [])) = .ok cs) : v.IsListed := by
  by_cases htruthy : v.truthy = true
  · rw [Json.orElse, if_pos htruthy] at h
    cases v with
    | arr items => exact Or.inl rfl
    | str s =>
      obtain ⟨c, rest, hs⟩ : ∃ c rest, s.toList = c :: rest := by
        refine List.exists_cons_of_ne_nil fun hnil ↦ ?_
        rw [Json.truthy, Text.isEmpty, hnil] at htruthy
        exact absurd htruthy (by decide)
      rw [readTuple, Json.elements, hs] at h
      · cases h
      · simp
    | obj members =>
      cases members with
      | nil => exact absurd htruthy (by decide)
      | cons m ms =>
        rw [readTuple] at h
        · cases h
        · simp
    | null | bool b | int n | float x =>
      rw [readTuple] at h
      · cases h
      · simp
  · exact Or.inr (Bool.not_eq_true _ ▸ htruthy)

namespace Parameter

variable {members : List (Text × Json)} {sig : Signature} {t : EvmType}

theorem isTuple_iff {v : Json} (h : signature? v = some sig) :
    isTuple v = true ↔ sig.base = .tuple := by
  rw [isTuple, h, Option.any_some, decide_eq_true_eq]

/-- **The type of a parameter** is what its signature makes of its parts. -/
theorem readType_of_signature? (hsig : signature? (.obj members) = some sig)
    (hlisted : sig.base = .tuple → ((Json.obj members).memberOr "components" .null).IsListed) :
    readType (.obj members) = ((parts (.obj members)).mapM Component.read).map fun cs ↦
      (EvmType.ofBase cs sig.base).wrap sig.dimensions := by
  have hcomponents : readType (.obj members)
      = EvmType.read ((Json.obj members).memberOr "type" .null)
          ((Json.obj members).memberOr "components" .null) := by
    rw [readType, require_of_signature? hsig]
    rfl
  rw [hcomponents, EvmType.read_of_signature (signature?_eq_some_iff.mp hsig), parts]
  by_cases hbase : sig.base = .tuple
  · rw [if_pos hbase, if_pos ((isTuple_iff hsig).mpr hbase),
      EvmType.readTuple_of_isListed (hlisted hbase)]
  · rw [if_neg hbase, if_neg (mt (isTuple_iff hsig).mp hbase)]
    rfl

theorem exists_signature?_of_readType (h : readType (.obj members) = .ok t) :
    ∃ sig, signature? (.obj members) = some sig ∧
      (sig.base = .tuple → ((Json.obj members).memberOr "components" .null).IsListed) := by
  obtain ⟨raw, hraw, h⟩ := bind_eq_ok_iff.mp h
  obtain ⟨components, hcomponents, h⟩ := bind_eq_ok_iff.mp h
  obtain rfl : (Json.obj members).memberOr "components" .null = components :=
    Except.ok.inj hcomponents
  obtain rfl : (Json.obj members).memberOr "type" .null = raw := Json.memberOr_of_require hraw .null
  cases hread : EvmType.signature ((Json.obj members).memberOr "type" .null) with
  | error fault =>
    rw [EvmType.read_of_signature_error hread] at h
    cases h
  | ok sig =>
    refine ⟨sig, signature?_eq_some_iff.mpr hread, fun hbase ↦ ?_⟩
    rw [EvmType.read_of_signature hread, if_pos hbase] at h
    obtain ⟨cs, hcs, -⟩ := map_eq_ok_iff.mp h
    exact EvmType.isListed_of_readTuple hcs

end Parameter

end AbiTypings
