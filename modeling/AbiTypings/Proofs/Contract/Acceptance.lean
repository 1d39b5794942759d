import AbiTypings.Contract.Reading
import AbiTypings.Proofs.Contract.Classification
import AbiTypings.Proofs.EvmType.Reading
import AbiTypings.Proofs.Typings.Template

/-!
# What an accepted description can declare

Every part of a description is read or refused with a fault that a run over a directory contains,
and every part that is read can be written: its types come from signatures, and those are supported.

The one step with a fault of another class is taking the first output of an accessor. It is only
taken after the outputs have been counted, and `size_outputs_of_isSingleValue` carries the count
from the classification of an entry to the place where the first output is read.
-/

namespace AbiTypings

/-! ## Parameters and methods -/

theorem Parameter.yields_readType (raw : Json) :
    Yields (fun t ↦ ∀ d, t.Renders d) (Parameter.readType raw) := by
  refine (Json.yields_require raw "type").bind fun type _ ↦ ?_
  refine (Json.yields_get raw "components").bind fun components _ ↦ ?_
  exact (EvmType.yields_read type components).mono fun t ht d ↦ (ht d).renders

theorem Parameter.yields_read (raw : Json) :
    Yields (fun p ↦ ∀ d, p.type.Renders d) (Parameter.read raw) := by
  cases raw with
  | obj members =>
    refine (Json.yields_get (.obj members) "name").bind fun name _ ↦ ?_
    exact (Parameter.yields_readType (.obj members)).bind fun t ht ↦ ht
  | _ => rfl

theorem Parameter.yields_readAll (raw : Json) :
    Yields (fun ps ↦ ∀ p ∈ ps, ∀ d, p.type.Renders d) (Parameter.readAll raw) :=
  (Json.yields_elements _).bind fun _ _ ↦ yields_mapM fun item _ ↦ Parameter.yields_read item

theorem EventParameter.yields_read (raw : Json) :
    Yields (fun _ ↦ True) (EventParameter.read raw) := by
  refine (Json.yields_get raw "name").bind fun name _ ↦ ?_
  refine (Parameter.yields_readType raw).bind fun type _ ↦ ?_
  exact (Json.yields_get raw "indexed").bind fun indexed _ ↦ trivial

theorem Method.yields_read (entry : Json) : Yields Method.Renders (Method.read entry) := by
  refine (Json.yields_require entry "name").bind fun name _ ↦ ?_
  refine (Json.yields_get entry "inputs").bind fun rawInputs _ ↦ ?_
  refine (Parameter.yields_readAll rawInputs).bind fun inputs hinputs ↦ ?_
  refine (Json.yields_get entry "outputs").bind fun rawOutputs _ ↦ ?_
  refine (Parameter.yields_readAll rawOutputs).bind fun outputs houtputs ↦ ?_
  exact ⟨fun p hp ↦ hinputs p hp .input, fun p hp ↦ houtputs p hp .output⟩

theorem Function.yields_read (entry : Json) :
    Yields (fun f ↦ f.toMethod.Renders) (Function.read entry) := by
  refine (Json.yields_get entry "payable").bind fun payable _ ↦ ?_
  refine (Json.yields_get entry "stateMutability").bind fun mutability _ ↦ ?_
  exact (Method.yields_read entry).bind fun m hm ↦ hm

theorem Event.yields_read (entry : Json) : Yields (fun _ ↦ True) (Event.read entry) := by
  refine (Json.yields_get entry "inputs").bind fun raw _ ↦ ?_
  refine (Json.yields_elements _).bind fun items _ ↦ ?_
  have hitems : Yields (fun _ ↦ True) (items.mapM EventParameter.read) :=
    (yields_mapM fun item _ ↦ EventParameter.yields_read item).mono fun _ _ ↦ trivial
  refine hitems.bind fun inputs _ ↦ ?_
  refine (Json.yields_require entry "name").bind fun name _ ↦ ?_
  exact (Json.yields_get entry "anonymous").bind fun anonymous _ ↦ trivial

/-! ## Accessors -/

theorem yields_isSingleValue (entry : Json) : Yields (fun _ ↦ True) (isSingleValue entry) := by
  refine (Json.yields_get entry "inputs").bind fun inputs _ ↦ ?_
  by_cases htruthy : inputs.truthy = true
  · rw [if_pos htruthy]
    trivial
  · rw [if_neg htruthy]
    refine (Json.yields_get entry "outputs").bind fun outputs _ ↦ ?_
    exact (Json.yields_size _).bind fun n _ ↦ trivial

/-- Nothing is taken for an accessor before its outputs have been counted. -/
theorem yields_classify (members : List (Text × Json)) :
    Yields (fun cls ↦ cls = .accessor → isSingleValue (.obj members) = .ok true)
      (classify (.obj members)) := by
  rw [classify_obj]
  split
  · by_cases hreads : readsOnly (.obj members) = true
    · rw [if_pos hreads]
      refine (yields_isSingleValue (.obj members)).and_eq.map ?_
      -- Only the answer of the count makes an accessor.
      rintro single ⟨hsingle, -⟩ haccessor
      cases single with
      | true => exact hsingle
      | false => cases haccessor
    · rw [if_neg hreads]
      exact fun h ↦ nomatch h
  all_goals exact fun h ↦ nomatch h

/-- The first output is there because the outputs have been counted. -/
theorem Accessor.yields_read {members : List (Text × Json)}
    (h : isSingleValue (.obj members) = .ok true) :
    Yields (fun a ↦ a.output.type.Renders .output) (Accessor.read (.obj members)) := by
  refine (Json.yields_require (.obj members) "name").bind fun name _ ↦ ?_
  obtain ⟨outputs, houtputs, hsize⟩ := size_outputs_of_isSingleValue h
  rw [houtputs]
  refine (Json.yields_first hsize).bind fun raw _ ↦ ?_
  exact (Parameter.yields_read raw).bind fun p hp ↦ hp .output

/-! ## Declarations -/

namespace Declaration

/-- Whatever of a declaration goes into the typings has a rendering. -/
def Renders : Declaration → Prop
  | function f => f.toMethod.Renders
  | constantFunction m => m.Renders
  | accessor a => a.output.type.Renders .output
  | event _ => True
  | skipped _ => True

variable {filePath : Text}

theorem yields_readAs {members : List (Text × Json)} {cls : EntryClass}
    (h : cls = .accessor → isSingleValue (.obj members) = .ok true) :
    Yields Renders (readAs filePath (.obj members) cls) := by
  cases cls with
  | function => exact (Function.yields_read _).map fun f hf ↦ hf
  | constantFunction => exact (Method.yields_read _).map fun m hm ↦ hm
  | accessor => exact (Accessor.yields_read (h rfl)).map fun a ha ↦ ha
  | event => exact (Event.yields_read _).map fun _ _ ↦ trivial
  | ignored kind => trivial
  | unsupported => trivial

theorem yields_read (entry : Json) : Yields Renders (read filePath entry) := by
  cases entry with
  | obj members => exact (yields_classify members).bind fun cls hcls ↦ yields_readAs hcls
  | _ => rfl

/-- What holds of a single entry holds of all that are read, and of the one that is refused. -/
theorem renders_and_isContained_of_readAll (filePath : Text) (entries : List Json) :
    (∀ d ∈ (readAll filePath entries).1, d.Renders) ∧
      ∀ fault, (readAll filePath entries).2 = some fault → fault.isContained = true := by
  induction entries with
  | nil => exact ⟨fun d hd ↦ absurd hd List.not_mem_nil, fun fault h ↦ nomatch h⟩
  | cons entry entries ih =>
    have hentry : Yields Renders (read filePath entry) := yields_read entry
    rw [readAll]
    cases hread : read filePath entry with
    | error fault =>
      refine ⟨fun d hd ↦ absurd hd List.not_mem_nil, ?_⟩
      rintro fault' h
      obtain rfl := Option.some.inj h
      exact hentry.of_error hread
    | ok d => exact ⟨List.forall_mem_cons.mpr ⟨hentry.of_ok hread, ih.1⟩, ih.2⟩

end Declaration

/-! ## Contracts -/

private theorem forall_mem_filterMap_of_renders {α : Type} {P : α → Prop}
    {select : Declaration → Option α} {ds : List Declaration} (h : ∀ d ∈ ds, d.Renders)
    (hselect : ∀ d member, select d = some member → d.Renders → P member) :
    ∀ member ∈ ds.filterMap select, P member := by
  intro member hmember
  obtain ⟨d, hd, hselected⟩ := List.mem_filterMap.mp hmember
  exact hselect d member hselected (h d hd)

theorem renders_ofDeclarations (name : Json) {ds : List Declaration} (h : ∀ d ∈ ds, d.Renders) :
    (Contract.ofDeclarations name ds).Renders := by
  refine ⟨?_, ?_, ?_⟩
  · refine forall_mem_filterMap_of_renders h fun d member hmember hd ↦ ?_
    cases d with
    | constantFunction declared =>
      obtain rfl := Option.some.inj hmember
      exact hd
    | _ => cases hmember
  · refine forall_mem_filterMap_of_renders h fun d member hmember hd ↦ ?_
    cases d with
    | function declared =>
      obtain rfl := Option.some.inj hmember
      exact hd
    | _ => cases hmember
  · refine forall_mem_filterMap_of_renders h fun d member hmember hd ↦ ?_
    cases d with
    | accessor declared =>
      obtain rfl := Option.some.inj hmember
      exact hd
    | _ => cases hmember

/-- **Acceptance.** A sequence of entries is read to a contract that can be written, or it is
refused with a contained fault. -/
theorem Contract.yields_readEntries (name : Json) (filePath : Text) (entries : List Json) :
    Yields Contract.Renders (Contract.readEntries name filePath entries).result := by
  obtain ⟨hrenders, hcontained⟩ :=
    Declaration.renders_and_isContained_of_readAll filePath entries
  rcases hread : Declaration.readAll filePath entries with ⟨ds, fault | fault⟩
  · rw [Contract.readEntries_of_none hread]
    rw [hread] at hrenders
    exact renders_ofDeclarations name hrenders
  · rw [Contract.readEntries_of_some hread]
    exact hcontained fault (by rw [hread])

theorem Contract.yields_read (name : Json) (filePath : Text) (description : Json) :
    Yields Contract.Renders (Contract.read name filePath description).result := by
  have helements := Json.yields_elements description
  rw [Contract.read]
  cases hread : description.elements with
  | ok entries => exact Contract.yields_readEntries name filePath entries
  | error fault => exact helements.of_error hread

theorem Contract.Renders.exists_typings {c : Contract} (h : c.Renders) :
    ∃ document, typings c = .ok document := by
  refine ⟨joinLines (documentRows c), ?_⟩
  rw [typings, writes_documentText h]

end AbiTypings
