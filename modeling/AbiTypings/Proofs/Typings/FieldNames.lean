import Mathlib.Data.List.Nodup
import AbiTypings.Proofs.EvmType.Offenders
import AbiTypings.Typings.Member

/-!
# Names of fields and parameters

Fields of records and parameters of methods are named alike: a name that says something is shown as
it is, and in place of any other one stands `arg` with the place. Declared names are not looked at
when a place is written, so a declared name can be the name of a place.

Where declared names are texts and all different, that is the only way in which two fields get the
same name (`fieldNames_apart`): two declared names differ, and so do the names of two places.
-/

namespace AbiTypings

/-! ## Names in a row -/

/-- The names of fields, the first of them at the place `index`. -/
def fieldNames (index : Nat) (names : List Json) : List Text :=
  (names.zipIdx index).map fun (name, i) ↦ fieldName name i

def fieldText (name type : Text) : Text := name ++ ": " ++ type

theorem fieldNames_cons (index : Nat) (name : Json) (names : List Json) :
    fieldNames index (name :: names) = fieldName name index :: fieldNames (index + 1) names := rfl

theorem getElem?_fieldNames (names : List Json) (i : Nat) :
    (fieldNames 0 names)[i]? = names[i]?.map fun name ↦ fieldName name i := by
  rw [fieldNames, List.getElem?_map, List.getElem?_zipIdx, Option.map_map]
  simp [Function.comp_def]

theorem renderFields_eq_zipWith {d : Direction} {index : Nat} {components : List (Json × EvmType)}
    {fields : List Text} (h : EvmType.renderFields d index components = .ok fields) :
    fields = List.zipWith fieldText (fieldNames index (components.map Prod.fst))
      (components.map fun c ↦ c.2.rendering d) := by
  induction components generalizing index fields with
  | nil => exact (Except.ok.inj h).symm
  | cons c rest ih =>
    obtain ⟨s, others, hs, hothers, rfl⟩ := EvmType.renderFields_cons_eq_ok_iff.mp h
    have hrendering : c.2.rendering d = s := by
      rw [EvmType.rendering, hs]
      rfl
    rw [ih hothers, List.map_cons, List.map_cons, fieldNames_cons, List.zipWith_cons_cons,
      hrendering, fieldText]

/-! ## Names that differ -/

/-- The names that say something are texts, and no two of them are the same. -/
structure DeclaredApart (names : List Json) : Prop where
  /-- Names that say something are texts. -/
  texts : ∀ name ∈ names, name.truthy = true → ∃ s, name = .str s
  /-- No other name is the same. -/
  apart : names.Pairwise fun name other ↦ name.truthy = true → name ≠ other

theorem truthy_arg (i : Nat) : (Json.str ("arg" ++ toString i)).truthy = true := by
  rfl

theorem fieldName_of_missing {name : Json} (h : name.truthy = false) (i : Nat) :
    fieldName name i = "arg" ++ toString i := by
  rw [fieldName_eq, if_neg (by simp [h])]

theorem fieldName_str {s : Text} (h : (Json.str s).truthy = true) (i : Nat) :
    fieldName (.str s) i = s := by
  rw [fieldName_eq, if_pos h, Json.display]

theorem arg_injective {i j : Nat} (h : ("arg" ++ toString i : Text) = "arg" ++ toString j) :
    i = j :=
  toString_injective (Text.ofString_inj.mp ((Text.append_right_inj "arg").mp h))

section Names

variable {names : List Json} {i j : Nat} {name other : Json}

/-- Two fields with the same name: one of them is declared under the place of the other one. -/
theorem DeclaredApart.of_fieldName_eq (h : DeclaredApart names) (hij : i < j)
    (hi : names[i]? = some name) (hj : names[j]? = some other)
    (heq : fieldName name i = fieldName other j) :
    (name.truthy = false ∧ other = .str ("arg" ++ toString i)) ∨
      (other.truthy = false ∧ name = .str ("arg" ++ toString j)) := by
  have hname := List.mem_of_getElem? hi
  have hother := List.mem_of_getElem? hj
  by_cases hdeclared : name.truthy = true
  · obtain ⟨s, rfl⟩ := h.texts name hname hdeclared
    rw [fieldName_str hdeclared] at heq
    by_cases hdeclared' : other.truthy = true
    · obtain ⟨s', rfl⟩ := h.texts other hother hdeclared'
      rw [fieldName_str hdeclared'] at heq
      obtain ⟨hilt, hi⟩ := List.getElem?_eq_some_iff.mp hi
      obtain ⟨hjlt, hj⟩ := List.getElem?_eq_some_iff.mp hj
      have hne := List.pairwise_iff_getElem.mp h.apart i j hilt hjlt hij
      rw [hi, hj, heq] at hne
      exact absurd rfl (hne hdeclared')
    · have hmissing : other.truthy = false := by simpa using hdeclared'
      rw [fieldName_of_missing hmissing] at heq
      exact Or.inr ⟨hmissing, by rw [heq]⟩
  · have hmissing : name.truthy = false := by simpa using hdeclared
    rw [fieldName_of_missing hmissing] at heq
    by_cases hdeclared' : other.truthy = true
    · obtain ⟨s', rfl⟩ := h.texts other hother hdeclared'
      rw [fieldName_str hdeclared'] at heq
      exact Or.inl ⟨hmissing, by rw [heq]⟩
    · have hmissing' : other.truthy = false := by simpa using hdeclared'
      rw [fieldName_of_missing hmissing'] at heq
      exact absurd (arg_injective heq) (Nat.ne_of_lt hij)

/-- Names in a row differ unless one of them is declared under the place of a field without one. -/
theorem DeclaredApart.nodup_fieldNames_iff (h : DeclaredApart names) :
    (fieldNames 0 names).Nodup ↔ ∀ (i : Nat) (name : Json), names[i]? = some name →
      name.truthy = false → Json.str ("arg" ++ toString i) ∉ names := by
  constructor
  · intro hnodup i name hi hmissing hmem
    obtain ⟨j, hj⟩ := List.mem_iff_getElem?.mp hmem
    have hnames : (fieldNames 0 names)[i]? = (fieldNames 0 names)[j]? := by
      rw [getElem?_fieldNames, getElem?_fieldNames, hi, hj, Option.map_some, Option.map_some,
        fieldName_of_missing hmissing, fieldName_str (truthy_arg i)]
    have hlt : i < (fieldNames 0 names).length := by
      have hbound := (List.getElem?_eq_some_iff.mp hi).1
      simpa [fieldNames] using hbound
    obtain rfl : i = j := (List.getElem?_inj hlt hnodup).mp hnames
    rw [hi] at hj
    rw [Option.some.inj hj, truthy_arg] at hmissing
    exact Bool.noConfusion hmissing
  · intro hplaces
    rw [List.nodup_iff_getElem?_ne_getElem?]
    intro i j hij hj heq
    rw [getElem?_fieldNames, getElem?_fieldNames] at heq
    have hjlt : j < names.length := by
      simpa [fieldNames] using hj
    obtain ⟨name, hname⟩ : ∃ name, names[i]? = some name :=
      ⟨_, List.getElem?_eq_getElem (Nat.lt_trans hij hjlt)⟩
    obtain ⟨other, hother⟩ : ∃ other, names[j]? = some other :=
      ⟨_, List.getElem?_eq_getElem hjlt⟩
    rw [hname, hother, Option.map_some, Option.map_some] at heq
    rcases h.of_fieldName_eq hij hname hother (Option.some.inj heq) with
      ⟨hmissing, rfl⟩ | ⟨hmissing, rfl⟩
    · exact hplaces i name hname hmissing (List.mem_of_getElem? hother)
    · exact hplaces j other hother hmissing (List.mem_of_getElem? hname)

end Names

/-! ## Parameters and components -/

theorem renderInputs_eq_ok {inputs : List Parameter} {text : Text}
    (h : renderInputs inputs = .ok text) :
    text = Text.intercalate ", " (List.zipWith fieldText (fieldNames 0 (inputs.map (·.name)))
      (inputs.map fun p ↦ p.type.rendering .input)) := by
  rw [renderInputs, map_eq_ok_iff] at h
  obtain ⟨fields, hfields, rfl⟩ := h
  rw [renderFields_eq_zipWith hfields, List.map_map, List.map_map]
  rfl

theorem renderTuple_eq_ok {d : Direction} {components : List (Json × EvmType)} {text : Text}
    (h : (EvmType.tuple components).renderTuple d = .ok text) :
    text = recordText (List.zipWith fieldText (fieldNames 0 (components.map Prod.fst))
      (components.map fun c ↦ c.2.rendering d)) := by
  obtain ⟨fields, hfields, rfl⟩ := map_eq_ok_iff.mp h
  rw [renderFields_eq_zipWith hfields]

/-- **Names of fields.** If the declared names among parameters or components are texts and all
different, the names they are rendered under are all different exactly if none is declared under the
place of one without a name. Declared names are rendered as they are, and any other one as `arg` and
its place. -/
theorem fieldNames_apart {names : List Json} (h : DeclaredApart names) :
    ((fieldNames 0 names).Nodup ↔ ∀ (i : Nat) (name : Json), names[i]? = some name →
      name.truthy = false → Json.str ("arg" ++ toString i) ∉ names) ∧
    (∀ (i : Nat) (name : Json), names[i]? = some name →
      (fieldNames 0 names)[i]? = some (if name.truthy then name.display else "arg" ++ toString i)) ∧
    (∀ (inputs : List Parameter) (text : Text), inputs.map (·.name) = names →
      renderInputs inputs = .ok text →
      text = Text.intercalate ", " (List.zipWith fieldText (fieldNames 0 names)
        (inputs.map fun p ↦ p.type.rendering .input))) ∧
    ∀ (d : Direction) (components : List (Json × EvmType)) (text : Text),
      components.map Prod.fst = names → (EvmType.tuple components).renderTuple d = .ok text →
      text = recordText (List.zipWith fieldText (fieldNames 0 names)
        (components.map fun c ↦ c.2.rendering d)) := by
  refine ⟨h.nodup_fieldNames_iff, ?_, ?_, ?_⟩
  · intro i name hi
    rw [getElem?_fieldNames, hi, Option.map_some, fieldName_eq]
  · rintro inputs text rfl htext
    exact renderInputs_eq_ok htext
  · rintro d components text rfl htext
    exact renderTuple_eq_ok htext

/-- The name of a place is not taken where the place itself is declared. -/
theorem fieldNames_apart_transfer :
    DeclaredApart [.null, .str "to", .str "", .str "arg7"] ∧
    fieldNames 0 [.null, .str "to", .str "", .str "arg7"] 
      = (["arg0", "to", "arg2", "arg7"] : List Text) ∧
    (fieldNames 0 [.null, .str "to", .str "", .str "arg7"]).Nodup := by
  have h : DeclaredApart [.null, .str "to", .str "", .str "arg7"] := by
    constructor
    · simp [Json.truthy]
    · simp [Json.truthy]
  refine ⟨h, by decide +kernel, (fieldNames_apart h).1.mpr ?_⟩
  intro i name hi hmissing hmem
  match i, hi with
  | 0, _ | 2, _ =>
    simp only [List.mem_cons, List.not_mem_nil, Json.str.injEq, reduceCtorEq, false_or,
      or_false] at hmem
    exact absurd hmem (by decide +kernel)
  | 1, hi | 3, hi =>
    rw [← Option.some.inj hi] at hmissing
    simp [Json.truthy, Text.isEmpty_iff] at hmissing
  | _ + 4, hi => cases hi

/-- Two fields with the same name: the second one has none of its own, and the first one is declared
under the place of the second. -/
theorem fieldNames_clash :
    DeclaredApart [.str "arg1", .null] ∧
    ¬(fieldNames 0 [.str "arg1", .null]).Nodup ∧
    renderInputs [⟨.str "arg1", .bool⟩, ⟨.null, .bool⟩] = .ok "arg1: boolean, arg1: boolean" ∧
    (EvmType.tuple [(.str "arg1", .bool), (.null, .bool)]).renderTuple .input
      = .ok "\x7b arg1: boolean, arg1: boolean \x7d" := by
  refine ⟨⟨?_, ?_⟩, by decide +kernel, ?_, ?_⟩
  · simp [Json.truthy]
  · simp [Json.truthy]
  · rfl
  · rfl

end AbiTypings
