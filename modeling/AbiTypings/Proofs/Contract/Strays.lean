import AbiTypings.Contract.Reading
import AbiTypings.Proofs.Contract.Components

/-!
# Values that stray into the place of parameters

Parameters are read in three places: among the inputs and outputs of a function, among the inputs of
an event, and among the components of a tuple. Each place expects objects, and each has a way of its
own to refuse what is none. `slots` lists where objects are expected in the order of reading, a
parameter before its components. In a description whose objects are all well formed nothing else can
go wrong, so the first slot that holds no object decides about the whole (`readEntries_strays`), and
its role decides about the class of the fault.

A reader of one slot is described once (`ReadsSlot`), and the three readers are three instances. The
way from slots to descriptions goes by the judgement `StopsAt`: a step succeeds if a list of faults
is empty, and fails with the first of them otherwise.
-/

namespace AbiTypings

/-! ## Steps that stop at the first fault -/

section Stopping

variable {α β : Type} {faults rest : List Fault}

/-- A step succeeds if there are no faults, and fails with the first one otherwise. -/
def StopsAt (faults : List Fault) (step : Except Fault α) : Prop :=
  match faults with
  | [] => ∃ a, step = .ok a
  | fault :: _ => step = .error fault

theorem stopsAt_ok (a : α) : StopsAt [] (.ok a) := ⟨a, rfl⟩

theorem StopsAt.map {step : Except Fault α} (h : StopsAt faults step) (f : α → β) :
    StopsAt faults (step.map f) := by
  cases faults with
  | nil =>
    obtain ⟨a, rfl⟩ := h
    exact stopsAt_ok (f a)
  | cons fault faults =>
    obtain rfl : step = .error fault := h
    exact rfl

/-- The faults of the second step count if the first step has none. -/
theorem StopsAt.bind {step : Except Fault α} {next : α → Except Fault β} (h : StopsAt faults step)
    (hnext : ∀ a, StopsAt rest (next a)) : StopsAt (faults ++ rest) (step >>= next) := by
  cases faults with
  | nil =>
    obtain ⟨a, rfl⟩ := h
    exact hnext a
  | cons fault faults =>
    obtain rfl : step = .error fault := h
    exact rfl

theorem stopsAt_mapM {read : α → Except Fault β} {faults : α → List Fault} {items : List α}
    (h : ∀ item ∈ items, StopsAt (faults item) (read item)) :
    StopsAt (items.flatMap faults) (items.mapM read) := by
  induction items with
  | nil => exact stopsAt_ok []
  | cons item items ih =>
    have hrest := ih fun other hother ↦ h other (List.mem_cons_of_mem item hother)
    rw [List.mapM_cons, List.flatMap_cons]
    exact (h item List.mem_cons_self).bind fun result ↦ hrest.map fun results ↦ result :: results

theorem StopsAt.of_ok {step : Except Fault α} (h : StopsAt faults step) {a : α}
    (ha : step = .ok a) : faults.head? = none := by
  cases faults with
  | nil => rfl
  | cons fault faults => cases ha.symm.trans h

theorem StopsAt.of_error {step : Except Fault α} (h : StopsAt faults step) {fault : Fault}
    (hfault : step = .error fault) : faults.head? = some fault := by
  cases faults with
  | nil =>
    obtain ⟨a, ha⟩ := h
    cases ha.symm.trans hfault
  | cons first faults => rw [Except.error.inj (hfault.symm.trans h), List.head?_cons]

end Stopping

/-! ## Slots -/

/-- The places in which parameters are read. -/
inductive Role where
  /-- Among the inputs or the outputs of a function. -/
  | parameter
  /-- Among the inputs of an event. -/
  | argument
  /-- Among the components of a tuple. -/
  | component
deriving DecidableEq, Repr

/-- Where an object is expected, with what stands there. -/
structure Slot where
  /-- The place. -/
  role : Role
  /-- What stands there. -/
  value : Json

namespace Slot

/-- Whether an object stands there. -/
def isFilled (s : Slot) : Bool :=
  match s.value with
  | .obj _ => true
  | _ => false

/-- The fault of a slot that holds no object. -/
def fault (s : Slot) : Fault :=
  match s.role with
  | .parameter => .notParameter s.value
  | .argument => .shape (.noMembers s.value.kind)
  | .component => .shape (.noMembers s.value.kind)

/-- What stands in a slot is well formed, if it is an object: its type follows the grammar, and in
the place of components is a list or nothing. -/
def IsWellFormed (s : Slot) : Prop :=
  ∀ members, s.value = .obj members →
    (∃ text, members.lookup ("type" : Text) = some (.str text) ∧ Signature.IsSpelled text.toList) ∧
      (s.value.memberOr "components" .null).IsListed

end Slot

/-- The slots of a parameter: its own, and those of its components. -/
def slots (role : Role) (v : Json) : List Slot :=
  ⟨role, v⟩ :: (Parameter.parts v).attach.flatMap fun part ↦ slots .component part.1
termination_by sizeOf v
decreasing_by exact Parameter.sizeOf_lt_of_mem_parts part.2

theorem slots_eq (role : Role) (v : Json) :
    slots role v = ⟨role, v⟩ :: (Parameter.parts v).flatMap (slots .component) := by
  rw [slots, List.flatMap_subtype (fun _ _ ↦ rfl), List.unattach_attach]

/-- The slots of an entry: those of the inputs and outputs of a function, or those of the inputs of
an event. -/
def entrySlots (entry : Json) : List Slot :=
  let inputs := (entry.memberOr "inputs" .null).items
  let outputs := (entry.memberOr "outputs" .null).items
  match (declaredKind entry).string? with
  | some "function" => inputs.flatMap (slots .parameter) ++ outputs.flatMap (slots .parameter)
  | some "event" => inputs.flatMap (slots .argument)
  | _ => []

/-- The first slot that holds no object. -/
def firstStray? (slots : List Slot) : Option Slot := slots.find? fun s ↦ !s.isFilled

/-- The faults of the slots that hold no object. -/
def strayFaults (slots : List Slot) : List Fault :=
  (slots.filter fun s ↦ !s.isFilled).map Slot.fault

theorem head?_strayFaults (slots : List Slot) :
    (strayFaults slots).head? = (firstStray? slots).map Slot.fault := by
  rw [strayFaults, List.head?_map, List.head?_filter, firstStray?]

theorem strayFaults_append (slots others : List Slot) :
    strayFaults (slots ++ others) = strayFaults slots ++ strayFaults others := by
  simp [strayFaults]

theorem strayFaults_flatMap {α : Type} (items : List α) (slotsOf : α → List Slot) :
    strayFaults (items.flatMap slotsOf) = items.flatMap fun item ↦ strayFaults (slotsOf item) := by
  induction items with
  | nil => rfl
  | cons item items ih => rw [List.flatMap_cons, List.flatMap_cons, strayFaults_append, ih]

theorem strayFaults_slots_of_not_isFilled {s : Slot} (h : s.isFilled = false) :
    strayFaults (slots s.role s.value) = [s.fault] := by
  obtain ⟨role, v⟩ := s
  have hparts : Parameter.parts v = [] := by
    cases v with
    | obj members => cases h
    | _ => rfl
  rw [slots_eq, hparts, List.flatMap_nil, strayFaults, List.filter_cons_of_pos (by simp [h])]
  rfl

theorem strayFaults_slots_obj (role : Role) (members : List (Text × Json)) :
    strayFaults (slots role (.obj members))
      = (Parameter.parts (.obj members)).flatMap fun part ↦
          strayFaults (slots .component part) := by
  rw [slots_eq, ← strayFaults_flatMap]
  exact congrArg (List.map Slot.fault) (List.filter_cons_of_neg (by simp [Slot.isFilled]))

/-! ## Reading a slot -/

/-- A way to read what stands in a place: an object is read by its type, and anything else is
refused in the way of the place. -/
structure ReadsSlot {α : Type} (role : Role) (read : Json → Except Fault α) : Prop where
  /-- Objects. -/
  object : ∀ members, ∃ f, read (.obj members) = (Parameter.readType (.obj members)).map f
  /-- Anything else. -/
  stray : ∀ v, Slot.isFilled ⟨role, v⟩ = false → read v = .error (Slot.fault ⟨role, v⟩)

theorem Parameter.readsSlot_read : ReadsSlot .parameter Parameter.read where
  object members := by
    refine ⟨fun t ↦ ⟨((Json.obj members).memberOr "name" .null).orElse .null, t⟩, ?_⟩
    change (Parameter.readType (.obj members) >>= fun t ↦ pure _) = _
    cases Parameter.readType (.obj members) <;> rfl
  stray v h := by
    cases v with
    | obj members => cases h
    | _ => rfl

theorem EventParameter.readsSlot_read : ReadsSlot .argument EventParameter.read where
  object members := by
    refine ⟨fun t ↦ ⟨⟨((Json.obj members).memberOr "name" .null).orElse .null, t⟩,
      ((Json.obj members).memberOr "indexed" .null).truthy⟩, ?_⟩
    change (Parameter.readType (.obj members) >>= fun t ↦ pure _) = _
    cases Parameter.readType (.obj members) <;> rfl
  stray v h := by
    cases v with
    | obj members => cases h
    | _ => rfl

theorem Component.readsSlot_read : ReadsSlot .component Component.read where
  object members := ⟨_, rfl⟩
  stray v h := by
    cases v with
    | obj members => cases h
    | _ => rfl

section Reading

variable {α : Type} {role : Role} {read : Json → Except Fault α} {v : Json}

/-- One slot: what holds of its components holds of what stands in it. -/
theorem ReadsSlot.stopsAt_of_parts (hread : ReadsSlot role read)
    (hwell : Slot.IsWellFormed ⟨role, v⟩)
    (hparts : ∀ part ∈ Parameter.parts v,
      StopsAt (strayFaults (slots .component part)) (Component.read part)) :
    StopsAt (strayFaults (slots role v)) (read v) := by
  cases hfilled : Slot.isFilled ⟨role, v⟩ with
  | false =>
    rw [strayFaults_slots_of_not_isFilled hfilled, hread.stray v hfilled]
    exact rfl
  | true =>
    obtain ⟨members, rfl⟩ : ∃ members, v = .obj members := by
      cases v with
      | obj members => exact ⟨members, rfl⟩
      | _ => cases hfilled
    obtain ⟨⟨text, htext, w, hw⟩, hlisted⟩ := hwell members rfl
    have hsig : Parameter.signature? (.obj members) = some w.signature := by
      rw [Parameter.signature?_eq_some_iff, Json.memberOr, htext]
      exact Signature.read_eq_ok_iff.mpr ⟨w, hw, rfl⟩
    obtain ⟨f, hf⟩ := hread.object members
    rw [strayFaults_slots_obj, hf, Parameter.readType_of_signature? hsig fun _ ↦ hlisted]
    exact ((stopsAt_mapM hparts).map _).map f

theorem stopsAt_component (v : Json) (h : ∀ s ∈ slots .component v, s.IsWellFormed) :
    StopsAt (strayFaults (slots .component v)) (Component.read v) := by
  rw [slots_eq] at h
  obtain ⟨hwell, hparts⟩ := List.forall_mem_cons.mp h
  refine Component.readsSlot_read.stopsAt_of_parts hwell fun part hpart ↦ ?_
  have := Parameter.sizeOf_lt_of_mem_parts hpart
  exact stopsAt_component part fun s hs ↦ hparts s (List.mem_flatMap.mpr ⟨part, hpart, hs⟩)
termination_by sizeOf v

theorem ReadsSlot.stopsAt (hread : ReadsSlot role read) (h : ∀ s ∈ slots role v, s.IsWellFormed) :
    StopsAt (strayFaults (slots role v)) (read v) := by
  rw [slots_eq] at h
  obtain ⟨hwell, hparts⟩ := List.forall_mem_cons.mp h
  refine hread.stopsAt_of_parts hwell fun part hpart ↦ stopsAt_component part fun s hs ↦ ?_
  exact hparts s (List.mem_flatMap.mpr ⟨part, hpart, hs⟩)

theorem ReadsSlot.stopsAt_mapM (hread : ReadsSlot role read) {items : List Json}
    (h : ∀ s ∈ items.flatMap (slots role), s.IsWellFormed) :
    StopsAt (strayFaults (items.flatMap (slots role))) (items.mapM read) := by
  rw [strayFaults_flatMap]
  refine AbiTypings.stopsAt_mapM fun item hitem ↦ hread.stopsAt fun s hs ↦ ?_
  exact h s (List.mem_flatMap.mpr ⟨item, hitem, hs⟩)

end Reading

/-! ## Reading an entry -/

/-- An entry with a name, in which nothing can go wrong but that a parameter is no object. -/
structure IsLegible (entry : Json) : Prop where
  /-- The entry is an object with a name. -/
  named : ∃ members name, entry = .obj members ∧ members.lookup ("name" : Text) = some name
  /-- In the place of inputs is a list or nothing. -/
  inputs : (entry.memberOr "inputs" .null).IsListed
  /-- In the place of outputs is a list or nothing. -/
  outputs : (entry.memberOr "outputs" .null).IsListed
  /-- The parameters that are objects are well formed. -/
  slots : ∀ s ∈ entrySlots entry, s.IsWellFormed

section Entries

variable {members : List (Text × Json)}

theorem IsLegible.exists_name (h : IsLegible (.obj members)) :
    ∃ name, (Json.obj members).require "name" = .ok name := by
  obtain ⟨_, name, heq, hname⟩ := h.named
  obtain rfl := Json.obj.inj heq
  exact ⟨name, by rw [Json.require, hname]⟩

theorem Parameter.stopsAt_readAll {raw : Json} (hlisted : raw.IsListed)
    (h : ∀ s ∈ raw.items.flatMap (slots .parameter), s.IsWellFormed) :
    StopsAt (strayFaults (raw.items.flatMap (slots .parameter))) (Parameter.readAll raw) := by
  rw [Parameter.readAll, hlisted.orElse_eq]
  exact Parameter.readsSlot_read.stopsAt_mapM h

theorem IsLegible.exists_isSingleValue (h : IsLegible (.obj members)) :
    ∃ single, isSingleValue (.obj members) = .ok single := by
  rw [isSingleValue_obj, h.outputs.orElse_eq]
  split
  · exact ⟨_, rfl⟩
  · exact ⟨_, rfl⟩

section Functions

variable (hkind : (declaredKind (.obj members)).string? = some "function")

include hkind

theorem entrySlots_function : entrySlots (.obj members)
    = ((Json.obj members).memberOr "inputs" .null).items.flatMap (slots .parameter) ++
      ((Json.obj members).memberOr "outputs" .null).items.flatMap (slots .parameter) := by
  rw [entrySlots, hkind]
  rfl

theorem Method.stopsAt_read (h : IsLegible (.obj members)) :
    StopsAt (strayFaults (entrySlots (.obj members))) (Method.read (.obj members)) := by
  have hslots := h.slots
  rw [entrySlots_function hkind, List.forall_mem_append] at hslots
  obtain ⟨name, hname⟩ := h.exists_name
  have hinputs := Parameter.stopsAt_readAll h.inputs hslots.1
  have houtputs := Parameter.stopsAt_readAll h.outputs hslots.2
  rw [entrySlots_function hkind, strayFaults_append, Method.read, hname]
  exact hinputs.bind fun inputs ↦ houtputs.map fun outputs ↦ Method.mk name inputs outputs

theorem Function.stopsAt_read (h : IsLegible (.obj members)) :
    StopsAt (strayFaults (entrySlots (.obj members))) (Function.read (.obj members)) := by
  have hmethod := (Method.stopsAt_read hkind h).map fun m ↦
    Function.mk m (((Json.obj members).memberOr "payable" .null).truthy ||
      ((Json.obj members).memberOr "stateMutability" .null).isText ["payable"])
  exact hmethod

theorem Accessor.stopsAt_read (h : IsLegible (.obj members))
    (hsingle : isSingleValue (.obj members) = .ok true) :
    StopsAt (strayFaults (entrySlots (.obj members))) (Accessor.read (.obj members)) := by
  obtain ⟨hnone, hsize⟩ := eq_of_isSingleValue hsingle
  obtain ⟨outputs, houtputs, -⟩ := size_outputs_of_isSingleValue hsingle
  obtain ⟨name, hname⟩ := h.exists_name
  have hmember : (Json.obj members).memberOr "outputs" .null = outputs :=
    Json.memberOr_of_require houtputs .null
  have hlisted := h.outputs
  have hslots := h.slots
  rw [entrySlots_function hkind, Json.items_eq_nil_of_truthy_eq_false hnone, List.flatMap_nil,
    List.nil_append, hmember] at hslots ⊢
  rw [hmember] at hlisted hsize
  rw [hlisted.orElse_eq] at hsize
  obtain ⟨raw, hitems⟩ := List.length_eq_one_iff.mp (Except.ok.inj hsize)
  have harr : outputs = .arr [raw] := by
    cases outputs with
    | arr items => rw [← hitems]; rfl
    | _ => cases hitems
  rw [hitems, List.flatMap_singleton] at hslots ⊢
  rw [Accessor.read, hname, houtputs, harr]
  exact (Parameter.readsSlot_read.stopsAt hslots).map fun output ↦ Accessor.mk name output

end Functions

theorem Event.stopsAt_read (hkind : (declaredKind (.obj members)).string? = some "event")
    (h : IsLegible (.obj members)) :
    StopsAt (strayFaults (entrySlots (.obj members))) (Event.read (.obj members)) := by
  have hentry : entrySlots (.obj members)
      = ((Json.obj members).memberOr "inputs" .null).items.flatMap (slots .argument) := by
    rw [entrySlots, hkind]
    rfl
  have hslots := h.slots
  rw [hentry] at hslots ⊢
  obtain ⟨name, hname⟩ := h.exists_name
  rw [Event.read, hname]
  change StopsAt _ ((((Json.obj members).memberOr "inputs" .null).orElse (.arr [])).elements >>=
    fun items ↦ items.mapM EventParameter.read >>= fun inputs ↦ _)
  rw [h.inputs.orElse_eq]
  exact (EventParameter.readsSlot_read.stopsAt_mapM hslots).map fun inputs ↦
    Event.mk name inputs ((Json.obj members).memberOr "anonymous" .null).truthy

theorem stopsAt_skipped {entry : Json}
    (hfunction : (declaredKind entry).string? ≠ some "function")
    (hevent : (declaredKind entry).string? ≠ some "event") (d : Declaration) :
    StopsAt (strayFaults (entrySlots entry)) (.ok d) := by
  have hnone : entrySlots entry = [] := by
    rw [entrySlots]
    split
    · next hkind => exact absurd hkind hfunction
    · next hkind => exact absurd hkind hevent
    · rfl
  rw [hnone]
  exact stopsAt_ok d

variable {filePath : Text}

/-- **One entry** stops at the first of its slots that holds no object. -/
theorem Declaration.stopsAt_read {entry : Json} (h : IsLegible entry) :
    StopsAt (strayFaults (entrySlots entry)) (Declaration.read filePath entry) := by
  obtain ⟨members, name, rfl, -⟩ := h.named
  have hread : Declaration.read filePath (.obj members) = classify (.obj members) >>=
    Declaration.readAs filePath (.obj members) := rfl
  rw [hread, classify_obj]
  split
  · next hkind =>
    by_cases hreads : readsOnly (.obj members) = true
    · rw [if_pos hreads]
      obtain ⟨single, hsingle⟩ := h.exists_isSingleValue
      rw [hsingle]
      cases single with
      | true => exact (Accessor.stopsAt_read hkind h hsingle).map Declaration.accessor
      | false => exact (Method.stopsAt_read hkind h).map Declaration.constantFunction
    · rw [if_neg hreads]
      exact (Function.stopsAt_read hkind h).map Declaration.function
  · next hkind => exact (Event.stopsAt_read hkind h).map Declaration.event
  · next hkind => exact stopsAt_skipped (by simp [hkind]) (by simp [hkind]) _
  · next hkind => exact stopsAt_skipped (by simp [hkind]) (by simp [hkind]) _
  · next hkind => exact stopsAt_skipped (by simp [hkind]) (by simp [hkind]) _
  · next hfunction hevent _ _ _ => exact stopsAt_skipped hfunction hevent _

theorem Declaration.readAll_strays {entries : List Json} (h : ∀ entry ∈ entries, IsLegible entry) :
    (Declaration.readAll filePath entries).2
      = (firstStray? (entries.flatMap entrySlots)).map Slot.fault := by
  rw [← head?_strayFaults]
  induction entries with
  | nil => rfl
  | cons entry entries ih =>
    obtain ⟨hentry, hentries⟩ := List.forall_mem_cons.mp h
    have hstops : StopsAt (strayFaults (entrySlots entry)) (Declaration.read filePath entry) :=
      Declaration.stopsAt_read hentry
    rw [List.flatMap_cons, strayFaults_append, List.head?_append, Declaration.readAll]
    cases hread : Declaration.read filePath entry with
    | ok d =>
      rw [hstops.of_ok hread, Option.none_or]
      exact ih hentries
    | error fault =>
      rw [hstops.of_error hread, Option.some_or]

end Entries

/-! ## Reading a description -/

theorem Slot.kind_fault (s : Slot) :
    s.fault.kind = if s.role = .parameter then .value else .attribute := by
  obtain ⟨role, v⟩ := s
  cases role <;> rfl

/-- **Strays.** Where all objects are well formed, a description is accepted exactly if every slot
holds an object. The first one that does not is the fault of the whole, and it is a refused content
only in the place of an input or output of a function. -/
theorem readEntries_strays (name : Json) (filePath : Text) {entries : List Json}
    (h : ∀ entry ∈ entries, IsLegible entry) :
    ((∃ c, (Contract.readEntries name filePath entries).result = .ok c) ↔
      ∀ s ∈ entries.flatMap entrySlots, s.isFilled = true) ∧
    ∀ s, firstStray? (entries.flatMap entrySlots) = some s →
      (Contract.readEntries name filePath entries).result = .error s.fault ∧
        s.fault.kind = if s.role = .parameter then .value else .attribute := by
  have hfilled : firstStray? (entries.flatMap entrySlots) = none ↔
      ∀ s ∈ entries.flatMap entrySlots, s.isFilled = true := by
    rw [firstStray?, List.find?_eq_none]
    simp
  have hfault : (Declaration.readAll filePath entries).2 = _ := Declaration.readAll_strays h
  rcases hread : Declaration.readAll filePath entries with ⟨ds, fault?⟩
  rw [hread] at hfault
  subst hfault
  rw [← hfilled]
  cases hfirst : firstStray? (entries.flatMap entrySlots) with
  | none =>
    rw [hfirst] at hread
    rw [Contract.readEntries_of_none hread]
    exact ⟨iff_of_true ⟨_, rfl⟩ rfl, fun s hs ↦ nomatch hs⟩
  | some first =>
    rw [hfirst] at hread
    rw [Contract.readEntries_of_some hread]
    refine ⟨iff_of_false (fun ⟨c, hc⟩ ↦ nomatch hc) (fun hnone ↦ nomatch hnone), ?_⟩
    rintro s hs
    obtain rfl := Option.some.inj hs
    exact ⟨rfl, Slot.kind_fault first⟩

/-- A truth value, well formed. -/
private def sealedComponent : Json := .obj [("name", .str "sealed"), ("type", .str "bool")]

/-- A record of a truth value and a stray. -/
private def ballotParameter : Json :=
  .obj [("type", .str "tuple"), ("components", .arr [sealedComponent, .int 5])]

/-- A function of a record with a stray in it and of another stray. -/
private def castEntry : Json :=
  .obj [("name", .str "cast"), ("inputs", .arr [ballotParameter, .str "uint256"])]

/-- An event with nothing but a stray. -/
private def openedEntry : Json :=
  .obj [("type", .str "event"), ("name", .str "Opened"), ("inputs", .arr [.int 5])]

private theorem entrySlots_castEntry : entrySlots castEntry =
    [⟨.parameter, ballotParameter⟩, ⟨.component, sealedComponent⟩, ⟨.component, .int 5⟩,
      ⟨.parameter, .str "uint256"⟩] := by
  have hballot : Parameter.signature? ballotParameter = some ⟨.tuple, []⟩ :=
    Parameter.signature?_eq_some_iff.mpr
      (Signature.read_eq_ok_iff.mpr ⟨_, Signature.BaseSpelling.text_alone .tuple, rfl⟩)
  have hsealed : Parameter.signature? sealedComponent = some ⟨.bool, []⟩ :=
    Parameter.signature?_eq_some_iff.mpr
      (Signature.read_eq_ok_iff.mpr ⟨_, Signature.BaseSpelling.text_alone .bool, rfl⟩)
  have hparts : Parameter.parts ballotParameter = [sealedComponent, .int 5] := by
    rw [Parameter.parts, (Parameter.isTuple_iff hballot).mpr rfl]
    rfl
  have hnone : Parameter.parts sealedComponent = [] := by
    rw [Parameter.parts, if_neg (mt (Parameter.isTuple_iff hsealed).mp (by decide))]
  have hint : Parameter.parts (.int 5) = [] := rfl
  have hstr : Parameter.parts (.str "uint256") = [] := rfl
  have hinputs : entrySlots castEntry
      = [ballotParameter, .str "uint256"].flatMap (slots .parameter) ++ [] := rfl
  simp [hinputs, slots_eq, hparts, hnone, hint, hstr]

private theorem isLegible_castEntry : IsLegible castEntry where
  named := ⟨_, .str "cast", rfl, rfl⟩
  inputs := Or.inl rfl
  outputs := Or.inr rfl
  slots := by
    rw [entrySlots_castEntry]
    simp only [List.forall_mem_cons]
    refine ⟨?_, ?_, ?_, ?_, List.forall_mem_nil _⟩
    · rintro members heq
      obtain rfl := Json.obj.inj heq
      exact ⟨⟨"tuple", rfl, _, Signature.BaseSpelling.text_alone .tuple⟩, Or.inl rfl⟩
    · rintro members heq
      obtain rfl := Json.obj.inj heq
      exact ⟨⟨"bool", rfl, _, Signature.BaseSpelling.text_alone .bool⟩, Or.inr rfl⟩
    · exact fun members heq ↦ nomatch heq
    · exact fun members heq ↦ nomatch heq

/-- A stray among the components of a tuple comes before one among the inputs that follow it, and
decides about the class of the fault. -/
theorem readEntries_strays_cast :
    (∀ entry ∈ [castEntry], IsLegible entry) ∧
    (Contract.readEntries (.str "Ballot") "" [castEntry]).result
      = .error (.shape (.noMembers "int")) := by
  have hlegible : ∀ entry ∈ [castEntry], IsLegible entry := by
    simpa using isLegible_castEntry
  have hfirst : firstStray? ([castEntry].flatMap entrySlots) = some ⟨.component, .int 5⟩ := by
    rw [List.flatMap_singleton, entrySlots_castEntry]
    rfl
  exact ⟨hlegible, ((readEntries_strays (.str "Ballot") "" hlegible).2 _ hfirst).1⟩

private theorem entrySlots_openedEntry : entrySlots openedEntry = [⟨.argument, .int 5⟩] := by
  have hint : Parameter.parts (.int 5) = [] := rfl
  have hinputs : entrySlots openedEntry = [Json.int 5].flatMap (slots .argument) := rfl
  simp [hinputs, slots_eq, hint]

/-- A stray among the inputs of an event is refused, but not over its content. -/
theorem readEntries_opened :
    IsLegible openedEntry ∧ (∃ s ∈ entrySlots openedEntry, s.isFilled = false) ∧
    ∃ fault, (Contract.readEntries (.str "Ballot") "" [openedEntry]).result = .error fault ∧
      fault.kind = .attribute ∧ fault.kind ≠ .value := by
  rw [entrySlots_openedEntry]
  refine ⟨⟨⟨_, .str "Opened", rfl, rfl⟩, Or.inl rfl, Or.inr rfl, ?_⟩,
    ⟨_, List.mem_singleton_self _, rfl⟩, .shape (.noMembers "int"), rfl, rfl, by decide⟩
  rw [entrySlots_openedEntry, List.forall_mem_singleton]
  exact fun _ heq ↦ nomatch heq

end AbiTypings
