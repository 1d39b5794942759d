import AbiTypings.Proofs.EvmType.Offenders
import AbiTypings.Proofs.Typings.Template

/-!
# The node a document stops at

Writing a contract is all or nothing: it gives the whole document, or it stops at the first node
that is no type of its direction, and that node is the fault. `Contract.sites` lists the nodes a
contract is judged by in the order of its document, and `typings_determined` says that the list
decides everything.

## Where writing stops

Nothing is put back when writing stops, so the level then tells how deep the document was. The
judgement `Attempts sites depth` therefore speaks about three things at once: which sites decide
whether a step succeeds, that a step which succeeds leaves the layout as it was, and that a step
which fails leaves it `depth` levels deeper. Steps that cannot fail have every depth, which is why
the depth is an integer: a step that cannot fail one level deeper cannot fail here either.
-/

namespace AbiTypings

/-! ## Sites of a contract -/

def Parameter.sites (d : Direction) (p : Parameter) : List Site := p.type.sites d

/-- The sites of a method: those of its inputs, then those of its outputs. -/
def Method.sites (m : Method) : List Site :=
  m.inputs.flatMap (Parameter.sites .input) ++ m.outputs.flatMap (Parameter.sites .output)

def Accessor.sites (a : Accessor) : List Site := a.output.sites .output

/-- The sites of a contract: those of its constant functions, its functions and its accessors. -/
def Contract.sites (c : Contract) : List Site :=
  c.constantFunctions.flatMap Method.sites ++
    c.functions.flatMap (fun f ↦ f.toMethod.sites) ++ c.accessors.flatMap Accessor.sites

/-! ## Parameter lists and results -/

theorem componentSites_parameters (d : Direction) (ps : List Parameter) :
    componentSites d (ps.map fun p ↦ (p.name, p.type)) = ps.flatMap (Parameter.sites d) := by
  induction ps with
  | nil => rfl
  | cons p ps ih => rw [List.map_cons, componentSites_cons, ih, List.flatMap_cons, Parameter.sites]

theorem examines_renderInputs (inputs : List Parameter) :
    Examines (inputs.flatMap (Parameter.sites .input)) (renderInputs inputs) := by
  rw [← componentSites_parameters, renderInputs]
  exact (EvmType.examines_renderFields 0 _).map _

/-- A single output is rendered by itself and several ones go into a record, but they are looked at
in the same order. -/
theorem examines_renderOutputs (outputs : List Parameter) :
    Examines (outputs.flatMap (Parameter.sites .output)) (renderOutputs outputs) := by
  match outputs with
  | [] => exact examines_ok ("void" : Text)
  | [p] =>
    rw [List.flatMap_cons, List.flatMap_nil, List.append_nil]
    exact EvmType.examines_render p.type
  | p :: q :: rest =>
    have htypes : Examines ((p :: q :: rest).flatMap (Parameter.sites .output))
        ((p :: q :: rest).mapM fun p ↦ p.type.render .output) :=
      examines_mapM fun p ↦ EvmType.examines_render p.type
    exact htypes.map fun types ↦
      recordText (namedFields (p :: q :: rest) types ++ placedFields types)

/-! ## Attempts -/

namespace LayoutM

variable {α β : Type} {sites rest : List Site} {depth : Int}

/-- A step that is decided by its sites. If it succeeds, the layout stays as it was, and if it
fails, the level is left deeper by `depth`. -/
def Attempts (sites : List Site) (depth : Int) (write : LayoutM α) : Prop :=
  ∀ l : Layout, match firstOffender? sites with
    | none => ∃ a, Writes write l a
    | some node => write.run l =
        .error (.unrecognizedType node) { l with level := l.level + depth }

theorem Attempts.of_none {write : LayoutM α} (h : Attempts sites depth write)
    (hnone : firstOffender? sites = none) (l : Layout) : ∃ a, Writes write l a := by
  have hl := h l
  rwa [hnone] at hl

theorem Attempts.of_some {write : LayoutM α} (h : Attempts sites depth write) {node : EvmType}
    (hsome : firstOffender? sites = some node) (l : Layout) :
    write.run l = .error (.unrecognizedType node) { l with level := l.level + depth } := by
  have hl := h l
  rwa [hsome] at hl

theorem attempts_of_writes {write : LayoutM α} (h : ∀ l, ∃ a, Writes write l a) :
    Attempts [] depth write := h

theorem attempts_pure (a : α) : Attempts [] depth (pure a) :=
  attempts_of_writes fun _ ↦ ⟨a, writes_pure a⟩

theorem attempts_line (text : Text) : Attempts [] depth (line text) :=
  attempts_of_writes fun _ ↦ ⟨_, writes_line text⟩

theorem attempts_mapM_line (texts : List Text) : Attempts [] depth (texts.mapM line) :=
  attempts_of_writes fun _ ↦ ⟨_, writes_mapM_line texts⟩

/-- A computation knows no level, so its fault leaves the level as it is. -/
theorem attempts_ofExcept {step : Except Fault α} (h : Examines sites step) :
    Attempts sites 0 (MonadExcept.ofExcept step) := by
  intro l
  cases hfirst : firstOffender? sites with
  | none =>
    obtain ⟨a, ha⟩ := h.of_none hfirst
    exact ⟨a, writes_ofExcept ha⟩
  | some node =>
    have hlevel : { l with level := l.level + 0 } = l := by rw [Int.add_zero]
    rw [h.of_some hfirst, hlevel]
    rfl

/-- The second step is only reached if the first one succeeds, and then under the same layout. -/
theorem Attempts.bind {write : LayoutM α} {next : α → LayoutM β}
    (h : Attempts sites depth write) (hnext : ∀ a, Attempts rest depth (next a)) :
    Attempts (sites ++ rest) depth (write >>= next) := by
  intro l
  rw [firstOffender?_append]
  cases hfirst : firstOffender? sites with
  | none =>
    obtain ⟨a, ha⟩ := h.of_none hfirst l
    cases hrest : firstOffender? rest with
    | none =>
      obtain ⟨b, hb⟩ := (hnext a).of_none hrest l
      exact ⟨b, ha.bind hb⟩
    | some node =>
      have hfails := (hnext a).of_some hrest l
      rw [EStateM.run_bind, ha]
      exact hfails
  | some node =>
    rw [EStateM.run_bind, h.of_some hfirst l]
    rfl

theorem Attempts.nil_bind {write : LayoutM α} {next : α → LayoutM β}
    (h : Attempts [] depth write) (hnext : ∀ a, Attempts rest depth (next a)) :
    Attempts rest depth (write >>= next) := h.bind hnext

theorem Attempts.bind_nil {write : LayoutM α} {next : α → LayoutM β}
    (h : Attempts sites depth write) (hnext : ∀ a, Attempts [] depth (next a)) :
    Attempts sites depth (write >>= next) := by
  have hbind := h.bind hnext
  rwa [List.append_nil] at hbind

/-- A step that fails one level deeper does not come back from there. -/
theorem Attempts.indented {write : LayoutM α} (h : Attempts sites depth write) :
    Attempts sites (depth + 1) (LayoutM.indented write) := by
  intro l
  cases hfirst : firstOffender? sites with
  | none =>
    obtain ⟨a, ha⟩ := h.of_none hfirst l.deeper
    exact ⟨a, ha.indented⟩
  | some node =>
    have hfails := h.of_some hfirst l.deeper
    have hlevel : l.level + 1 + depth = l.level + (depth + 1) := by omega
    calc (LayoutM.indented write).run l
        = (write >>= fun a ↦ shallower >>= fun _ ↦ pure a).run l.deeper := rfl
      _ = .error (.unrecognizedType node) { l with level := l.level + 1 + depth } := by
          rw [EStateM.run_bind, hfails]
          rfl
      _ = .error (.unrecognizedType node) { l with level := l.level + (depth + 1) } := by
          rw [hlevel]

theorem attempts_mapM {write : α → LayoutM β} {siteList : α → List Site}
    (h : ∀ item, Attempts (siteList item) depth (write item)) (items : List α) :
    Attempts (items.flatMap siteList) depth (items.mapM write) := by
  induction items with
  | nil => exact attempts_pure []
  | cons item items ih =>
    rw [List.mapM_cons, List.flatMap_cons]
    exact (h item).bind fun b ↦ ih.bind_nil fun bs ↦ attempts_pure (b :: bs)

end LayoutM

/-! ## Members -/

section Members

open LayoutM

variable {depth : Int}

theorem attempts_methodLine (m : Method) : Attempts m.sites 0 (methodLine m) := by
  have hinputs := attempts_ofExcept (examines_renderInputs m.inputs)
  have houtputs := attempts_ofExcept (examines_renderOutputs m.outputs)
  exact hinputs.bind fun _ ↦ houtputs.bind_nil fun _ ↦ attempts_line _

theorem attempts_accessorLine (a : Accessor) : Attempts a.sites 0 (accessorLine a) := by
  have houtput := attempts_ofExcept (EvmType.examines_render (d := .output) a.output.type)
  exact houtput.bind_nil fun _ ↦ attempts_line _

theorem attempts_subscriptionLines : Attempts [] depth subscriptionLines :=
  attempts_of_writes fun _ ↦ ⟨_, writes_subscriptionLines⟩

theorem attempts_eventBlock (e : Event) : Attempts [] depth (eventBlock e) :=
  (attempts_line _).bind fun _ ↦ attempts_subscriptionLines.bind fun _ ↦
    (attempts_line _).bind fun _ ↦ attempts_pure _

theorem attempts_allEventsBlock : Attempts [] depth allEventsBlock :=
  (attempts_line _).bind fun _ ↦ attempts_subscriptionLines.bind fun _ ↦
    (attempts_line _).bind fun _ ↦ attempts_pure _

theorem attempts_methodLines (c : Contract) : Attempts c.sites 0 (methodLines c) := by
  have hconstant := attempts_mapM attempts_methodLine c.constantFunctions
  have hfunctions := attempts_mapM (fun f : Function ↦ attempts_methodLine f.toMethod) c.functions
  have haccessors := attempts_mapM attempts_accessorLine c.accessors
  rw [Contract.sites, List.append_assoc]
  exact hconstant.bind fun _ ↦ hfunctions.bind fun _ ↦ haccessors.bind_nil fun _ ↦ attempts_pure _

theorem attempts_eventLines (c : Contract) : Attempts [] depth (eventLines c) := by
  have hblocks : Attempts (c.events.flatMap fun _ ↦ []) depth (c.events.mapM eventBlock) :=
    attempts_mapM attempts_eventBlock c.events
  have hnone : (c.events.flatMap fun _ ↦ ([] : List Site)) = [] :=
    List.flatMap_eq_nil_iff.mpr fun _ _ ↦ rfl
  rw [hnone] at hblocks
  exact hblocks.nil_bind fun _ ↦ attempts_allEventsBlock.bind fun _ ↦ attempts_pure _

end Members

/-! ## The class and the document -/

section Document

open LayoutM

/-- Only methods can fail, and they stand two levels deeper than the class. -/
theorem attempts_classBlock (c : Contract) : Attempts c.sites 2 (classBlock c) := by
  have hmethods : Attempts c.sites 1 (indented (methodLines c)) :=
    (attempts_methodLines c).indented
  have hevents : Attempts [] (0 + 1) (indented (eventLines c)) := (attempts_eventLines c).indented
  refine Attempts.bind_nil (Attempts.indented (?members : Attempts c.sites 1 _)) fun _ ↦
    attempts_pure _
  exact (attempts_line _).nil_bind fun _ ↦ (attempts_line _).nil_bind fun _ ↦
    hmethods.bind_nil fun _ ↦ (attempts_line _).nil_bind fun _ ↦
      (attempts_line _).nil_bind fun _ ↦ hevents.nil_bind fun _ ↦
        (attempts_line _).nil_bind fun _ ↦ (attempts_line _).nil_bind fun _ ↦ attempts_pure _

theorem attempts_transactionBlock {depth : Int} : Attempts [] depth transactionBlock := by
  have hmembers : Attempts [] (depth - 1 + 1)
      (indented (List.mapM line ["arguments: any[];", "call(tx?: Transaction): Promise<T>;",
        "send(tx?: Transaction): PromiEvent<T>;",
        "estimateGas(tx?: Transaction): Promise<number>;", "encodeABI(): string;"])) :=
    (attempts_mapM_line _).indented
  rw [Int.sub_add_cancel] at hmembers
  exact hmembers.nil_bind fun _ ↦ attempts_pure _

theorem attempts_preambleBlock {depth : Int} : Attempts [] depth preambleBlock :=
  attempts_transactionBlock.nil_bind fun _ ↦ attempts_pure _

/-- A document sets the level to zero before anything can fail, so it ends at zero or stops at the
level of the methods, whatever the level was before. -/
theorem run_documentText (c : Contract) (l : Layout) :
    match firstOffender? c.sites with
    | none => ∃ text, (documentText c).run l = .ok text { l with level := 0 }
    | some node => (documentText c).run l
        = .error (.unrecognizedType node) { l with level := 2 } := by
  have hparts : Attempts c.sites 2 (preambleBlock >>= fun preamble ↦ classBlock c >>= fun body ↦
      pure (joinLines [headerText, importText, preamble, body] ++ "\n")) :=
    attempts_preambleBlock.nil_bind fun _ ↦ (attempts_classBlock c).bind_nil fun _ ↦
      attempts_pure _
  exact hparts { l with level := 0 }

end Document

/-! ## All or nothing -/

section Determined

variable {c : Contract}

theorem examines_typings (c : Contract) : Examines c.sites (typings c) := by
  have hrun := run_documentText c {}
  rw [Examines, typings]
  cases hfirst : firstOffender? c.sites with
  | none =>
    rw [hfirst] at hrun
    obtain ⟨text, htext⟩ := hrun
    exact ⟨text, by rw [htext]⟩
  | some node =>
    rw [hfirst] at hrun
    rw [hrun]

theorem Method.renders_of_sites {m : Method} (h : ∀ s ∈ m.sites, s.isSupported = true) :
    m.Renders := by
  have hsites : ∀ s ∈ m.inputs.flatMap (Parameter.sites .input) ++
      m.outputs.flatMap (Parameter.sites .output), s.isSupported = true := h
  obtain ⟨hinputs, houtputs⟩ := List.forall_mem_append.mp hsites
  refine ⟨fun p hp ↦ ?_, fun p hp ↦ ?_⟩
  · exact EvmType.renders_iff.mpr fun s hs ↦ hinputs s (List.mem_flatMap.mpr ⟨p, hp, hs⟩)
  · exact EvmType.renders_iff.mpr fun s hs ↦ houtputs s (List.mem_flatMap.mpr ⟨p, hp, hs⟩)

theorem Contract.renders_of_typings {text : Text} (h : typings c = .ok text) : c.Renders := by
  have hsites : ∀ s ∈ c.sites, s.isSupported = true :=
    (examines_typings c).exists_ok_iff.mp ⟨text, h⟩
  rw [Contract.sites] at hsites
  obtain ⟨hmethods, haccessors⟩ := List.forall_mem_append.mp hsites
  obtain ⟨hconstant, hfunctions⟩ := List.forall_mem_append.mp hmethods
  refine ⟨fun m hm ↦ ?_, fun f hf ↦ ?_, fun a ha ↦ ?_⟩
  · exact Method.renders_of_sites fun s hs ↦ hconstant s (List.mem_flatMap.mpr ⟨m, hm, hs⟩)
  · exact Method.renders_of_sites fun s hs ↦ hfunctions s (List.mem_flatMap.mpr ⟨f, hf, hs⟩)
  · exact EvmType.renders_iff.mpr fun s hs ↦ haccessors s (List.mem_flatMap.mpr ⟨a, ha, hs⟩)

/-- The contract with other arguments of its events. -/
def Contract.withEventInputs (c : Contract) (inputs : Event → List EventParameter) : Contract :=
  { c with events := c.events.map fun e ↦ { e with inputs := inputs e } }

theorem eventLines_withEventInputs (c : Contract) (inputs : Event → List EventParameter) :
    eventLines (c.withEventInputs inputs) = eventLines c := by
  rw [eventLines, Contract.withEventInputs, List.mapM_map]
  rfl

theorem typings_withEventInputs (c : Contract) (inputs : Event → List EventParameter) :
    typings (c.withEventInputs inputs) = typings c := by
  have hclass : classBlock (c.withEventInputs inputs) = classBlock c := by
    rw [classBlock, eventLines_withEventInputs]
    rfl
  rw [typings, documentText, hclass]
  rfl

/-- A contract with nodes that are no types in its inputs, in its outputs and in its event. -/
private def auction : Contract where
  name := .str "Auction"
  functions := [⟨⟨.str "bid", [⟨.null, .array (.tuple [(.str "open", .bool), (.null, .void)]) none⟩,
    ⟨.null, .bare⟩], [⟨.null, .value .null⟩]⟩, true⟩]
  constantFunctions := [⟨.str "state", [], [⟨.null, .tuple [(.null, .void)]⟩]⟩]
  accessors := [⟨.str "owner", ⟨.null, .variation "Owner" .address⟩⟩]
  events := [⟨.str "Placed", [{ name := .null, type := .bare, indexed := false }], false⟩]

end Determined

end AbiTypings
