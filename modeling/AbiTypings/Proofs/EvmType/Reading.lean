import AbiTypings.EvmType.Reading
import AbiTypings.Proofs.EvmType.Rendering
import AbiTypings.Proofs.Fault.Containment

/-!
# What reading a type can give

A signature has no word for void and none for a foreign node, so every type that is read is
supported in both directions, whatever its components hold. The statement goes by the recursion of
`EvmType.read`: a type is read from its signature and the components of its tuple, and components
are read one after the other, each with components of its own.
-/

namespace AbiTypings

/-! ## Signatures -/

namespace Signature

theorem yields_readWidth (digits : List CodePoint) : Yields (fun _ ↦ True) (readWidth digits) := by
  rw [readWidth]
  cases Text.readNumeral digits with
  | ok n => trivial
  | error fault => rfl

theorem Base.yields_read (s : List CodePoint) : Yields (fun _ ↦ True) (Base.read s) := by
  have hwidth : ∀ (digits : List CodePoint) (f : Nat → Base),
      Yields (fun _ ↦ True) ((readWidth digits).map f) :=
    fun digits f ↦ (yields_readWidth digits).map fun _ _ ↦ trivial
  unfold Base.read
  repeat' split
  all_goals first | exact hwidth _ _ | trivial

theorem yields_readSize (shown size : List CodePoint) :
    Yields (fun _ ↦ True) (readSize shown size) := by
  rw [readSize]
  split
  · trivial
  · split
    · exact (yields_readWidth size).map fun _ _ ↦ trivial
    · rfl

/-- Whatever dimensions have been read before, the rest of a signature is read or refused. -/
theorem yields_readOuter (outer : List (Option Nat)) (s : List CodePoint) :
    Yields (fun _ ↦ True) (readOuter outer s) := by
  fun_induction readOuter outer s with
  | case1 outer s h => exact (Base.yields_read _).map fun _ _ ↦ trivial
  | case2 outer s front size h hempty => rfl
  | case3 outer s front size h hempty fault hfault => exact (yields_readSize _ size).of_error hfault
  | case4 outer s front size h hempty n hn hlt ih => exact ih

end Signature

/-! ## Types -/

namespace EvmType

variable {d : Direction}

theorem yields_signature (raw : Json) : Yields (fun _ ↦ True) (signature raw) := by
  cases raw with
  | str s => exact Signature.yields_readOuter [] s.toList
  | _ => rfl

theorem supported_ofBase {components : List (Json × EvmType)}
    (h : SupportedComponents d components) (base : Signature.Base) :
    (ofBase components base).Supported d := by
  cases base with
  | tuple => exact h
  | _ => trivial

theorem Supported.wrap {t : EvmType} (h : t.Supported d) (dimensions : List (Option Nat)) :
    (t.wrap dimensions).Supported d := by
  induction dimensions generalizing t with
  | nil => exact h
  | cons size rest ih =>
    have harray : (array t (size.map Int.ofNat)).Supported d := h
    exact ih harray

mutual

theorem yields_read (raw components : Json) :
    Yields (fun t ↦ ∀ d, t.Supported d) (read raw components) := by
  rw [read]
  refine (yields_signature raw).bind fun s _ ↦ ?_
  dsimp only
  split
  · refine (yields_readTuple components).bind fun cs hcs ↦ ?_
    exact fun d ↦ (supported_ofBase (hcs d) s.base).wrap s.dimensions
  · have hnil : ∀ d, SupportedComponents d [] := fun _ ↦ trivial
    exact fun d ↦ (supported_ofBase (hnil d) s.base).wrap s.dimensions
termination_by (sizeOf components, 1)

theorem yields_readTuple (components : Json) :
    Yields (fun cs ↦ ∀ d, SupportedComponents d cs) (readTuple components) := by
  rw [readTuple.eq_def]
  split
  · next items => exact yields_readComponents items
  · refine (Json.yields_elements components).bind fun parts _ ↦ ?_
    cases parts with
    | nil => exact fun _ ↦ trivial
    | cons part rest => rfl
termination_by (sizeOf components, 0)

theorem yields_readComponents (items : List Json) :
    Yields (fun cs ↦ ∀ d, SupportedComponents d cs) (readComponents items) := by
  match items with
  | [] =>
    rw [readComponents]
    exact fun _ ↦ trivial
  | .obj members :: rest =>
    -- What follows the type of a component is the same with and without components of its own.
    have hrest : ∀ (name : Json) (t : EvmType), (∀ d, t.Supported d) →
        Yields (fun cs ↦ ∀ d, SupportedComponents d cs)
          (readComponents rest >>= fun cs ↦ pure ((name, t) :: cs)) := by
      intro name t ht
      exact (yields_readComponents rest).bind fun cs hcs d ↦ ⟨ht d, hcs d⟩
    rw [readComponents]
    refine (Json.yields_require (.obj members) "type").bind fun raw _ ↦ ?_
    dsimp only
    split
    · next nested h =>
      have hlt := Json.sizeOf_lookup_lt h
      have : sizeOf nested < sizeOf (Json.obj members :: rest) := by
        simp only [List.cons.sizeOf_spec, Json.obj.sizeOf_spec]
        omega
      exact (yields_read raw nested).bind fun t ht ↦ hrest _ t ht
    · exact (yields_read raw .null).bind fun t ht ↦ hrest _ t ht
  | .null :: _ | .bool _ :: _ | .int _ :: _ | .float _ :: _ | .str _ :: _ | .arr _ :: _ =>
    rw [readComponents.eq_def]
    rfl
termination_by (sizeOf items, 0)

end

end EvmType

end AbiTypings
