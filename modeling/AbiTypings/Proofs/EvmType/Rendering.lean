import AbiTypings.Proofs.Fault.Success
import AbiTypings.EvmType.Rendering

/-!
# Types that have a rendering

Whether a type has a rendering is a matter of its nodes alone: in one direction none of them may be
void, in both none may be foreign. `EvmType.Supported` says so without rendering anything, and
`EvmType.Supported.renders` leads from there to the text.

Places of components count from where a list starts in its record, so statements about lists of
components carry that place.
-/

namespace AbiTypings

theorem fieldName_eq (name : Json) (index : Nat) :
    fieldName name index = if name.truthy then name.display else "arg" ++ toString index := by
  unfold fieldName fieldLabel Json.orElse
  split <;> rfl

theorem toString_injective {i j : Nat} (h : toString i = toString j) : i = j := by
  have hdigits : Nat.toDigits 10 i = Nat.toDigits 10 j := by
    rw [← Nat.toList_repr, ← Nat.toList_repr]
    exact congrArg String.toList h
  rw [← Nat.ofDigitChars_ten_toDigits (n := i), hdigits, Nat.ofDigitChars_ten_toDigits]

namespace EvmType

variable {d : Direction}

/-! ## Renderings -/

/-- A type has a rendering. -/
def Renders (d : Direction) (t : EvmType) : Prop := ∃ s, t.render d = .ok s

/-- The rendering of a type, empty if there is none. -/
def rendering (d : Direction) (t : EvmType) : Text := (t.render d).toOption.getD ""

theorem Renders.render_eq {t : EvmType} (h : t.Renders d) : t.render d = .ok (t.rendering d) := by
  obtain ⟨s, hs⟩ := h
  rw [rendering, hs]
  rfl

theorem renderFields_eq {components : List (Json × EvmType)}
    (h : ∀ c ∈ components, c.2.Renders d) (index : Nat) :
    renderFields d index components
      = .ok ((components.zipIdx index).map fun (c, i) ↦
          fieldName c.1 i ++ ": " ++ c.2.rendering d) := by
  induction components generalizing index with
  | nil => rfl
  | cons c rest ih =>
    have hc := (h c List.mem_cons_self).render_eq
    have hrest := ih (fun c' hc' ↦ h c' (List.mem_cons_of_mem c hc')) (index + 1)
    rw [renderFields, hc, hrest, List.zipIdx_cons, List.map_cons]
    rfl

theorem renderFields_cons_eq_ok_iff {index : Nat} {name : Json} {t : EvmType}
    {rest : List (Json × EvmType)} {fields : List Text} :
    renderFields d index ((name, t) :: rest) = .ok fields ↔ ∃ s others, t.render d = .ok s ∧
      renderFields d (index + 1) rest = .ok others ∧
      fields = (fieldName name index ++ ": " ++ s) :: others := by
  rw [renderFields, bind_eq_ok_iff]
  constructor
  · rintro ⟨s, hs, h⟩
    obtain ⟨others, hothers, h⟩ := bind_eq_ok_iff.mp h
    exact ⟨s, others, hs, hothers, (Except.ok.inj h).symm⟩
  · rintro ⟨s, others, hs, hothers, rfl⟩
    exact ⟨s, hs, bind_eq_ok_iff.mpr ⟨others, hothers, rfl⟩⟩

/-! ## Supported types -/

mutual

/-- Every node is a type of the machine, and none is void unless void may be returned. -/
def Supported (d : Direction) : EvmType → Prop
  | int _ => True
  | uint _ => True
  | address => True
  | void => d = .output
  | bytes _ => True
  | bool => True
  | string => True
  | array item _ => Supported d item
  | tuple components => SupportedComponents d components
  | bare => False
  | variation _ _ => False
  | value _ => False

def SupportedComponents (d : Direction) : List (Json × EvmType) → Prop
  | [] => True
  | (_, t) :: rest => Supported d t ∧ SupportedComponents d rest

end

mutual

theorem Supported.renders : ∀ {t : EvmType}, t.Supported d → t.Renders d
  | .int _, _ => by cases d <;> exact ⟨_, rfl⟩
  | .uint _, _ => by cases d <;> exact ⟨_, rfl⟩
  | .address, _ => by cases d <;> exact ⟨_, rfl⟩
  | .void, h => by
    obtain rfl : d = .output := h
    exact ⟨_, rfl⟩
  | .bytes _, _ => by cases d <;> exact ⟨_, rfl⟩
  | .bool, _ => by cases d <;> exact ⟨_, rfl⟩
  | .string, _ => by cases d <;> exact ⟨_, rfl⟩
  | .array item size, h => by
    rw [Supported] at h
    refine ⟨arrayText (item.rendering d), ?_⟩
    rw [render, h.renders.render_eq]
    rfl
  | .tuple components, h => by
    rw [Supported] at h
    rw [Renders, render, renderFields_eq h.renders]
    exact ⟨_, rfl⟩
  | .bare, h => h.elim
  | .variation _ _, h => h.elim
  | .value _, h => h.elim

theorem SupportedComponents.renders : ∀ {components : List (Json × EvmType)},
    SupportedComponents d components → ∀ c ∈ components, c.2.Renders d
  | [], _, _, hc => absurd hc List.not_mem_nil
  | (name, t) :: rest, h, c, hc => by
    rw [SupportedComponents] at h
    rcases List.mem_cons.mp hc with rfl | hc
    · exact h.1.renders
    · exact h.2.renders c hc

end

end EvmType

end AbiTypings
