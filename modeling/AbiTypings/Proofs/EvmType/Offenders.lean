import AbiTypings.Proofs.EvmType.Rendering

/-!
# The node a rendering stops at

Rendering walks a tree from the outside in and from left to right, and it stops at the first node
that is no type of its direction. `EvmType.nodes` lists the nodes of a tree in that order and looks
at none of them, so a rendering is decided by one search through a list: it succeeds if the search
finds nothing, and what the search finds is its fault.

## Sites

Whether a node is supported depends on the direction it is rendered in, so the lists searched
through are lists of *sites*, which are nodes with their directions. The sites of several steps in a
row are those of the first step followed by those of the next ones. `Examines` says that a step is
decided by its sites, and `Examines.bind` is where the order of evaluation enters.
-/

namespace AbiTypings

/-! ## Nodes of a tree -/

/-- Whether the kind of a node is a type in a direction. The parts of the node do not count. -/
def Direction.supports (d : Direction) : EvmType → Bool
  | .int _ => true
  | .uint _ => true
  | .address => true
  | .void => d == .output
  | .bytes _ => true
  | .bool => true
  | .string => true
  | .array _ _ => true
  | .tuple _ => true
  | .bare => false
  | .variation _ _ => false
  | .value _ => false

namespace EvmType

mutual

/-- The nodes of a tree: each one before its parts, and the parts from left to right. -/
def nodes : EvmType → List EvmType
  | array item size => array item size :: nodes item
  | tuple components => tuple components :: componentNodes components
  | variation name base => variation name base :: (nodes base).tail
  | t => [t]

def componentNodes : List (Json × EvmType) → List EvmType
  | [] => []
  | (_, t) :: rest => nodes t ++ componentNodes rest

end

end EvmType

/-! ## Sites -/

/-- A node with the direction it is rendered in. -/
structure Site where
  /-- The direction. -/
  direction : Direction
  /-- The node. -/
  node : EvmType

/-- Whether the node of a site is a type in the direction of the site. -/
def Site.isSupported (s : Site) : Bool := s.direction.supports s.node

/-- The first node that is not supported. -/
def firstOffender? (sites : List Site) : Option EvmType :=
  (sites.find? fun s ↦ !s.isSupported).map Site.node

/-- The sites of a type that is rendered in a direction. -/
def EvmType.sites (d : Direction) (t : EvmType) : List Site := t.nodes.map (Site.mk d)

def componentSites (d : Direction) (components : List (Json × EvmType)) : List Site :=
  (EvmType.componentNodes components).map (Site.mk d)

theorem componentSites_cons (d : Direction) (name : Json) (t : EvmType)
    (rest : List (Json × EvmType)) :
    componentSites d ((name, t) :: rest) = t.sites d ++ componentSites d rest := by
  rw [componentSites, EvmType.componentNodes, List.map_append, EvmType.sites, componentSites]

theorem firstOffender?_append (sites rest : List Site) :
    firstOffender? (sites ++ rest) = (firstOffender? sites).or (firstOffender? rest) := by
  rw [firstOffender?, List.find?_append, Option.map_or]
  rfl

theorem firstOffender?_cons_of_isSupported {s : Site} (h : s.isSupported = true)
    (sites : List Site) : firstOffender? (s :: sites) = firstOffender? sites := by
  rw [firstOffender?, List.find?_cons, h]
  rfl

theorem firstOffender?_eq_none_iff {sites : List Site} :
    firstOffender? sites = none ↔ ∀ s ∈ sites, s.isSupported = true := by
  rw [firstOffender?, Option.map_eq_none_iff, List.find?_eq_none]
  simp

theorem firstOffender?_eq_some_iff {sites : List Site} {node : EvmType} :
    firstOffender? sites = some node ↔ ∃ before site after, sites = before ++ site :: after ∧
      (∀ s ∈ before, s.isSupported = true) ∧ site.isSupported = false ∧ site.node = node := by
  rw [firstOffender?, Option.map_eq_some_iff]
  constructor
  · rintro ⟨site, hfind, rfl⟩
    obtain ⟨hstop, before, after, rfl, hbefore⟩ := List.find?_eq_some_iff_append.mp hfind
    refine ⟨before, site, after, rfl, fun s hs ↦ ?_, ?_, rfl⟩
    · simpa using hbefore s hs
    · simpa using hstop
  · rintro ⟨before, site, after, rfl, hbefore, hstop, rfl⟩
    refine ⟨site, List.find?_eq_some_iff_append.mpr ⟨by simp [hstop], before, after, rfl, ?_⟩, rfl⟩
    intro s hs
    simp [hbefore s hs]

/-! ## Steps decided by their sites -/

section Examining

variable {α β : Type} {sites rest : List Site}

/-- A step succeeds if all its sites are supported, and fails with the first node that is not. -/
def Examines (sites : List Site) (step : Except Fault α) : Prop :=
  match firstOffender? sites with
  | none => ∃ a, step = .ok a
  | some node => step = .error (.unrecognizedType node)

theorem Examines.of_none {step : Except Fault α} (h : Examines sites step)
    (hnone : firstOffender? sites = none) : ∃ a, step = .ok a := by
  rwa [Examines, hnone] at h

theorem Examines.of_some {step : Except Fault α} (h : Examines sites step) {node : EvmType}
    (hsome : firstOffender? sites = some node) : step = .error (.unrecognizedType node) := by
  rwa [Examines, hsome] at h

theorem examines_ok (a : α) : Examines [] (.ok a) := ⟨a, rfl⟩

theorem Examines.cons_of_isSupported {step : Except Fault α} (h : Examines sites step) {s : Site}
    (hs : s.isSupported = true) : Examines (s :: sites) step := by
  rw [Examines, firstOffender?_cons_of_isSupported hs]
  exact h

/-- The second step is only reached if the first one succeeds. -/
theorem Examines.bind {step : Except Fault α} {next : α → Except Fault β}
    (h : Examines sites step) (hnext : ∀ a, Examines rest (next a)) :
    Examines (sites ++ rest) (step >>= next) := by
  rw [Examines, firstOffender?_append]
  cases hfirst : firstOffender? sites with
  | none =>
    obtain ⟨a, rfl⟩ := h.of_none hfirst
    exact hnext a
  | some node =>
    rw [h.of_some hfirst]
    rfl

theorem Examines.map {step : Except Fault α} (h : Examines sites step) (f : α → β) :
    Examines sites (step.map f) := by
  rw [Examines]
  cases hfirst : firstOffender? sites with
  | none =>
    obtain ⟨a, rfl⟩ := h.of_none hfirst
    exact ⟨f a, rfl⟩
  | some node =>
    rw [h.of_some hfirst]
    rfl

theorem examines_mapM {step : α → Except Fault β} {siteList : α → List Site} {items : List α}
    (h : ∀ item, Examines (siteList item) (step item)) :
    Examines (items.flatMap siteList) (items.mapM step) := by
  induction items with
  | nil => exact examines_ok []
  | cons item items ih =>
    have htail : ∀ result, Examines (items.flatMap siteList)
        (items.mapM step >>= fun results ↦ pure (result :: results)) := by
      intro result
      have hresults := ih.bind fun results ↦ examines_ok (result :: results)
      rwa [List.append_nil] at hresults
    rw [List.mapM_cons, List.flatMap_cons]
    exact (h item).bind htail

theorem Examines.exists_ok_iff {step : Except Fault α} (h : Examines sites step) :
    (∃ a, step = .ok a) ↔ ∀ s ∈ sites, s.isSupported = true := by
  rw [← firstOffender?_eq_none_iff]
  constructor
  · rintro ⟨a, rfl⟩
    cases hfirst : firstOffender? sites with
    | none => rfl
    | some node => cases h.of_some hfirst
  · exact h.of_none

theorem Examines.eq_error_iff {step : Except Fault α} (h : Examines sites step) {fault : Fault} :
    step = .error fault ↔
      ∃ node, firstOffender? sites = some node ∧ fault = .unrecognizedType node := by
  constructor
  · rintro rfl
    cases hfirst : firstOffender? sites with
    | none =>
      obtain ⟨a, ha⟩ := h.of_none hfirst
      cases ha
    | some node => exact ⟨node, rfl, Except.error.inj (h.of_some hfirst)⟩
  · rintro ⟨node, hfirst, rfl⟩
    exact h.of_some hfirst

end Examining

/-! ## Renderings -/

namespace EvmType

variable {d : Direction}

mutual

/-- **The node a rendering stops at.** -/
theorem examines_render : ∀ t : EvmType, Examines (t.sites d) (t.render d)
  | .array item size => by
    rw [sites, nodes, List.map_cons, render]
    have hitem := (examines_render item).map arrayText
    exact hitem.cons_of_isSupported rfl
  | .tuple components => by
    rw [sites, nodes, List.map_cons, render]
    have hfields := (examines_renderFields 0 components).map recordText
    exact hfields.cons_of_isSupported rfl
  | .int _ => by cases d <;> exact ⟨_, rfl⟩
  | .uint _ => by cases d <;> exact ⟨_, rfl⟩
  | .address => by cases d <;> exact ⟨_, rfl⟩
  | .void => by
    cases d with
    | input => exact rfl
    | output => exact ⟨_, rfl⟩
  | .bytes _ => by cases d <;> exact ⟨_, rfl⟩
  | .bool => by cases d <;> exact ⟨_, rfl⟩
  | .string => by cases d <;> exact ⟨_, rfl⟩
  | .bare => by cases d <;> exact rfl
  | .variation _ _ => by cases d <;> exact rfl
  | .value _ => by cases d <;> exact rfl

/-- Fields are rendered in the order of the components, wherever their places start. -/
theorem examines_renderFields : ∀ (index : Nat) (components : List (Json × EvmType)),
    Examines (componentSites d components) (renderFields d index components)
  | _, [] => examines_ok []
  | index, (name, t) :: rest => by
    rw [componentSites_cons, renderFields]
    refine (examines_render t).bind fun s ↦ ?_
    have hrest := examines_renderFields (index + 1) rest
    have hfields := hrest.bind fun fields ↦
      examines_ok ((fieldName name index ++ ": " ++ s) :: fields)
    rwa [List.append_nil] at hfields

end

theorem renders_iff {t : EvmType} : t.Renders d ↔ ∀ s ∈ t.sites d, s.isSupported = true :=
  (examines_render t).exists_ok_iff

end EvmType

end AbiTypings
