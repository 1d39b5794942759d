import Mathlib.Data.List.Forall2
import AbiTypings.Proofs.Contract.Components
import AbiTypings.Proofs.Contract.Signatures
import AbiTypings.Proofs.EvmType.Shape

/-!
# What the typings show of a description

Much of a description leaves no trace in the typings: members that are never looked up, payments,
the arguments of events, the digits in types. `entryView` is what is left of an entry without all
that, and the main statement is that the typings and the notes are a function of it: two accepted
descriptions with the same views give the same text and the same notes
(`typings_of_views`).

The proof follows the text from the inside out. Types whose signatures differ in digits only have
the same renderings, at every depth of their components (`face_eq_of_view`). So parameters with the
same view look the same in a signature line, and entries with the same view have the same line. In
which block of the class a line stands depends on the group of its entry, and the view tells the
group (`group_entryView`).

Differences between descriptions are listed on their own, as `ParameterTwins` and `EntryTwins`, and
accepted twins have the same views (`map_entryView_eq_of_twins`).
-/

namespace AbiTypings

/-! ## Views -/

/-- What the typings can show of a parameter. -/
inductive ParameterView where
  /-- The name, the type without digits, and the same of the components of a tuple. -/
  | mk (name type : Json) (parts : List ParameterView)

/-- What the typings can show of the value that stands for a type. -/
def typeView : Json → Json
  | .str s => .str ⟨Text.withoutDigits s.toList⟩
  | v => v

/-- What the typings can show of a value in the place of a parameter. -/
def parameterView (v : Json) : ParameterView :=
  .mk (v.memberOr "name" (.str "")) (typeView (v.memberOr "type" .null))
    ((Parameter.parts v).attach.map fun part ↦ parameterView part.1)
termination_by sizeOf v
decreasing_by exact Parameter.sizeOf_lt_of_mem_parts part.2

theorem parameterView_eq (v : Json) :
    parameterView v = .mk (v.memberOr "name" (.str "")) (typeView (v.memberOr "type" .null))
      ((Parameter.parts v).map parameterView) := by
  rw [parameterView, List.map_subtype (fun _ _ ↦ rfl), List.unattach_attach]

/-- What the typings and the notes can show of an entry. -/
inductive EntryView where
  /-- A function. -/
  | function (name : Json) (readsOnly : Bool) (inputs outputs : List ParameterView)
  /-- An event. -/
  | event (name : Json)
  /-- Something that cannot be called by name. -/
  | ignored (kind : Json)
  /-- Something unknown. -/
  | unsupported (kind name : Json)

/-- What the typings and the notes can show of a value in the place of an entry. -/
def entryView (entry : Json) : EntryView :=
  match (declaredKind entry).string? with
  | some "function" =>
    .function (entry.memberOr "name" .null) (readsOnly entry)
      ((entry.memberOr "inputs" .null).items.map parameterView)
      ((entry.memberOr "outputs" .null).items.map parameterView)
  | some "event" => .event (entry.memberOr "name" .null)
  | _ =>
    if (declaredKind entry).isText ["constructor", "fallback", "receive"] then
      .ignored (declaredKind entry)
    else .unsupported (declaredKind entry) (entry.memberOr "name" (.str ""))

/-! ## Lists of views -/

section Lists

variable {α β γ δ : Type} {view : α → γ} {items items' : List α}

theorem map_eq_of_mapM {read : α → Except Fault β} {face : β → δ} {results results' : List β}
    (h : ∀ item ∈ items, ∀ item', view item = view item' → ∀ result result',
      read item = .ok result → read item' = .ok result' → face result = face result')
    (hview : items.map view = items'.map view) (hread : items.mapM read = .ok results)
    (hread' : items'.mapM read = .ok results') : results.map face = results'.map face := by
  induction items generalizing items' results results' with
  | nil =>
    obtain rfl : items' = [] := List.map_eq_nil_iff.mp hview.symm
    rw [Except.ok.inj (hread.symm.trans hread')]
  | cons item items ih =>
    obtain ⟨item', rest', rfl, hitem, hitems⟩ := List.map_eq_cons_iff.mp hview.symm
    obtain ⟨result, others, hresult, hothers, rfl⟩ := mapM_cons_eq_ok_iff.mp hread
    obtain ⟨result', others', hresult', hothers', rfl⟩ := mapM_cons_eq_ok_iff.mp hread'
    have hface := h item List.mem_cons_self item' hitem.symm result result' hresult hresult'
    have hrest := ih (fun other hother ↦ h other (List.mem_cons_of_mem item hother)) hitems.symm
      hothers hothers'
    rw [List.map_cons, List.map_cons, hface, hrest]

theorem map_eq_of_view {f : α → β}
    (h : ∀ item ∈ items, ∀ item', view item = view item' → f item = f item')
    (hview : items.map view = items'.map view) : items.map f = items'.map f := by
  have hread : ∀ items : List α, items.mapM (fun item ↦ Except.ok (f item))
      = (.ok (items.map f) : Except Fault (List β)) := fun items ↦ List.mapM_pure
  have hmap : (items.map f).map id = (items'.map f).map id := by
    refine map_eq_of_mapM (fun item hitem item' hview result result' hr hr' ↦ ?_) hview
      (hread items) (hread items')
    rw [← Except.ok.inj hr, ← Except.ok.inj hr', h item hitem item' hview]
  simpa using hmap

end Lists

/-! ## What is read -/

theorem Parameter.exists_obj_of_readType {v : Json} {t : EvmType}
    (h : Parameter.readType v = .ok t) : ∃ members, v = .obj members := by
  obtain ⟨raw, hraw, -⟩ := bind_eq_ok_iff.mp h
  cases v with
  | obj members => exact ⟨members, rfl⟩
  | _ => cases hraw

theorem Parameter.of_read {v : Json} {p : Parameter} (h : Parameter.read v = .ok p) :
    p.name = (v.memberOr "name" (.str "")).orElse .null ∧ Parameter.readType v = .ok p.type := by
  cases v with
  | obj members =>
    obtain ⟨name, hname, h⟩ := bind_eq_ok_iff.mp h
    obtain ⟨t, ht, h⟩ := bind_eq_ok_iff.mp h
    obtain rfl := Except.ok.inj hname
    obtain rfl := Except.ok.inj h
    refine ⟨?_, ht⟩
    -- A name that is missing says as little as an empty one.
    rw [Json.memberOr]
    cases members.lookup ("name" : Text) <;> rfl
  | _ => cases h

theorem Component.of_read {v : Json} {c : Json × EvmType} (h : Component.read v = .ok c) :
    c.1 = v.memberOr "name" (.str "") ∧ Parameter.readType v = .ok c.2 := by
  cases v with
  | obj members =>
    obtain ⟨t, ht, rfl⟩ := map_eq_ok_iff.mp h
    exact ⟨rfl, ht⟩
  | _ => cases h

/-! ## Types -/

section Types

variable {d : Direction} {t t' : EvmType}

theorem bare_eq_of_typeView {v v' : Json} {sig sig' : Signature}
    (hview : typeView (v.memberOr "type" .null) = typeView (v'.memberOr "type" .null))
    (h : Parameter.signature? v = some sig) (h' : Parameter.signature? v' = some sig') :
    sig.bare = sig'.bare := by
  rw [Parameter.signature?_eq_some_iff] at h h'
  cases htype : v.memberOr "type" .null with
  | str s =>
    cases htype' : v'.memberOr "type" .null with
    | str s' =>
      rw [htype, htype', typeView, typeView] at hview
      rw [htype] at h
      rw [htype'] at h'
      exact Signature.bare_eq_of_read h h' (Text.ofList.inj (Json.str.inj hview))
    | _ =>
      rw [htype'] at h'
      cases h'
  | _ =>
    rw [htype] at h
    cases h

theorem Component.yields_read (raw : Json) :
    Yields (fun c ↦ ∀ d, c.2.Renders d) (Component.read raw) := by
  cases raw with
  | obj members => exact (Parameter.yields_readType (.obj members)).map fun t ht ↦ ht
  | _ => rfl

/-- One step down: parameters with the same view have types that look the same, once their
components do. -/
theorem rendering_eq_of_parts {v v' : Json} (hview : parameterView v = parameterView v')
    (hparts : ∀ part ∈ Parameter.parts v, ∀ part', parameterView part = parameterView part' →
      ∀ c c', Component.read part = .ok c → Component.read part' = .ok c' →
        EvmType.face d c = EvmType.face d c')
    (h : Parameter.readType v = .ok t) (h' : Parameter.readType v' = .ok t') :
    t.rendering d = t'.rendering d := by
  obtain ⟨members, rfl⟩ := Parameter.exists_obj_of_readType h
  obtain ⟨members', rfl⟩ := Parameter.exists_obj_of_readType h'
  rw [parameterView_eq, parameterView_eq] at hview
  obtain ⟨-, htype, hpartViews⟩ := ParameterView.mk.inj hview
  obtain ⟨sig, hsig, hlisted⟩ := Parameter.exists_signature?_of_readType h
  obtain ⟨sig', hsig', hlisted'⟩ := Parameter.exists_signature?_of_readType h'
  rw [Parameter.readType_of_signature? hsig hlisted] at h
  rw [Parameter.readType_of_signature? hsig' hlisted'] at h'
  obtain ⟨cs, hcs, rfl⟩ := map_eq_ok_iff.mp h
  obtain ⟨cs', hcs', rfl⟩ := map_eq_ok_iff.mp h'
  have hrenders := (yields_mapM fun part _ ↦ Component.yields_read part).of_ok hcs
  have hrenders' := (yields_mapM fun part _ ↦ Component.yields_read part).of_ok hcs'
  exact EvmType.rendering_eq_of_bare_eq (bare_eq_of_typeView htype hsig hsig')
    (fun c hc ↦ hrenders c hc d) (fun c hc ↦ hrenders' c hc d)
    (map_eq_of_mapM hparts hpartViews hcs hcs')

theorem name_eq_of_view {v v' : Json} (hview : parameterView v = parameterView v') :
    v.memberOr "name" (.str "") = v'.memberOr "name" (.str "") := by
  rw [parameterView_eq, parameterView_eq] at hview
  exact (ParameterView.mk.inj hview).1

/-- **Components at every depth.** Components with the same view look the same. -/
theorem face_eq_of_view (v : Json) : ∀ v', parameterView v = parameterView v' → ∀ c c',
    Component.read v = .ok c → Component.read v' = .ok c' →
      EvmType.face d c = EvmType.face d c' := by
  intro v' hview c c' h h'
  obtain ⟨hname, ht⟩ := Component.of_read h
  obtain ⟨hname', ht'⟩ := Component.of_read h'
  have hrendering : c.2.rendering d = c'.2.rendering d :=
    rendering_eq_of_parts hview (fun part hpart ↦ face_eq_of_view part) ht ht'
  rw [EvmType.face, EvmType.face, hname, hname', name_eq_of_view hview, hrendering]
termination_by sizeOf v
decreasing_by exact Parameter.sizeOf_lt_of_mem_parts hpart

end Types

/-! ## Parameters -/

/-- What a signature line shows of a parameter. -/
def Parameter.face (p : Parameter) : Json × (Direction → Text) :=
  (p.name, fun d ↦ p.type.rendering d)

theorem Parameter.face_eq_of_view {v v' : Json} (hview : parameterView v = parameterView v')
    {p p' : Parameter} (h : Parameter.read v = .ok p) (h' : Parameter.read v' = .ok p') :
    p.face = p'.face := by
  obtain ⟨hname, ht⟩ := Parameter.of_read h
  obtain ⟨hname', ht'⟩ := Parameter.of_read h'
  have hrendering : ∀ d, p.type.rendering d = p'.type.rendering d := fun d ↦
    rendering_eq_of_parts hview (fun part _ ↦ AbiTypings.face_eq_of_view part) ht ht'
  rw [Parameter.face, Parameter.face, hname, hname', name_eq_of_view hview, funext hrendering]

section Lines

variable {ps ps' : List Parameter}

theorem parameterText_eq_of_face (h : ps.map Parameter.face = ps'.map Parameter.face) :
    parameterText ps = parameterText ps' := by
  have hface : ∀ ps : List Parameter, parameterText ps
      = Text.intercalate ", " ((ps.map Parameter.face).zipIdx.map fun (q, i) ↦
          (if q.1.truthy then q.1.display else "arg" ++ toString i) ++ ": " ++ q.2 .input) := by
    intro ps
    rw [List.zipIdx_map, List.map_map]
    rfl
  rw [hface, hface, h]

theorem resultFields_eq_of_face (h : ps.map Parameter.face = ps'.map Parameter.face) :
    resultFields ps = resultFields ps' := by
  have hface : ∀ ps : List Parameter, resultFields ps
      = (((ps.map Parameter.face).filter fun q ↦ q.1.truthy).map fun q ↦
          q.1.display ++ ": " ++ q.2 .output : List Text) ++
        ((ps.map Parameter.face).zipIdx.map fun (q, i) ↦
          toString i ++ ": " ++ q.2 .output : List Text) := by
    intro ps
    rw [List.filter_map, List.map_map, List.zipIdx_map, List.map_map]
    rfl
  rw [hface, hface, h]

theorem resultText_eq_of_face (h : ps.map Parameter.face = ps'.map Parameter.face) :
    resultText ps = resultText ps' := by
  match ps, ps', h with
  | [], [], _ => rfl
  | [p], [p'], h =>
    obtain ⟨hface, -⟩ := List.cons.inj h
    exact congrFun (congrArg Prod.snd hface) .output
  | p :: q :: rest, p' :: q' :: rest', h =>
    rw [resultText, resultText, resultFields_eq_of_face h]
    all_goals simp
  | [_], _ :: _ :: _, h | _ :: _ :: _, [_], h => simp at h

end Lines

theorem methodText_eq_of_face {m m' : Method} (hname : m.name = m'.name)
    (hinputs : m.inputs.map Parameter.face = m'.inputs.map Parameter.face)
    (houtputs : m.outputs.map Parameter.face = m'.outputs.map Parameter.face) :
    methodText m = methodText m' := by
  rw [methodText, methodText, hname, parameterText_eq_of_face hinputs,
    resultText_eq_of_face houtputs]

/-! ## Entries -/

def EntryView.group : EntryView → EntryGroup
  | function _ readsOnly inputs outputs =>
    if !readsOnly then .function
    else if inputs.length = 0 ∧ outputs.length = 1 then .accessor
    else .constantFunction
  | event _ => .event
  | ignored _ => .skipped
  | unsupported _ _ => .skipped

/-- The note on the entries with a view, if they are skipped. -/
def EntryView.note (filePath : Text) : EntryView → Option Diagnostic
  | ignored kind => some (.ignoredEntry kind filePath)
  | unsupported kind name => some (.unsupportedEntry kind name filePath)
  | function _ _ _ _ => none
  | event _ => none

section Entries

variable {entry entry' : Json}

theorem entryView_of_function (hkind : (declaredKind entry).string? = some "function") :
    entryView entry = .function (entry.memberOr "name" .null) (readsOnly entry)
      ((entry.memberOr "inputs" .null).items.map parameterView)
      ((entry.memberOr "outputs" .null).items.map parameterView) := by
  rw [entryView, hkind]
  rfl

theorem entryView_of_event (hkind : (declaredKind entry).string? = some "event") :
    entryView entry = .event (entry.memberOr "name" .null) := by
  rw [entryView, hkind]
  rfl

theorem entryView_of_other (hfunction : (declaredKind entry).string? ≠ some "function")
    (hevent : (declaredKind entry).string? ≠ some "event") : entryView entry =
      if (declaredKind entry).isText ["constructor", "fallback", "receive"] then
        .ignored (declaredKind entry)
      else .unsupported (declaredKind entry) (entry.memberOr "name" (.str "")) := by
  rw [entryView]
  split
  · next hkind => exact absurd hkind hfunction
  · next hkind => exact absurd hkind hevent
  · rfl

theorem entryGroup_cases (entry : Json) :
    ((declaredKind entry).string? = some "function" ∧ entryGroup entry ≠ .event ∧
      entryGroup entry ≠ .skipped) ∨
    ((declaredKind entry).string? = some "event" ∧ entryGroup entry = .event) ∨
    ((declaredKind entry).string? ≠ some "function" ∧ (declaredKind entry).string? ≠ some "event" ∧
      entryGroup entry = .skipped) := by
  rw [entryGroup]
  split
  · next hkind =>
    refine Or.inl ⟨hkind, ?_⟩
    split
    · decide
    · split <;> decide
  · next hkind => exact Or.inr (Or.inl ⟨hkind, rfl⟩)
  · next hfunction hevent => exact Or.inr (Or.inr ⟨hfunction, hevent, rfl⟩)

theorem group_entryView (entry : Json) : (entryView entry).group = entryGroup entry := by
  rcases entryGroup_cases entry with ⟨hkind, -⟩ | ⟨hkind, hgroup⟩ | ⟨hfunction, hevent, hgroup⟩
  · rw [entryView_of_function hkind, EntryView.group, List.length_map, List.length_map, entryGroup,
      hkind]
    rfl
  · rw [entryView_of_event hkind, hgroup]
    rfl
  · rw [entryView_of_other hfunction hevent, hgroup]
    split <;> rfl

theorem note_entryView (h : entryGroup entry = .skipped) (filePath : Text) :
    (entryView entry).note filePath = some (skippedNote filePath entry) := by
  rcases entryGroup_cases entry with ⟨-, -, hgroup⟩ | ⟨-, hgroup⟩ | ⟨hfunction, hevent, -⟩
  · exact absurd h hgroup
  · rw [h] at hgroup
    cases hgroup
  · rw [entryView_of_other hfunction hevent, skippedNote]
    split <;> rfl

theorem Method.of_read {m : Method} (h : Method.read entry = .ok m) :
    m.name = entry.memberOr "name" .null ∧
    (entry.memberOr "inputs" .null).items.mapM Parameter.read = .ok m.inputs ∧
    (entry.memberOr "outputs" .null).items.mapM Parameter.read = .ok m.outputs := by
  obtain ⟨name, hname, hrest⟩ := bind_eq_ok_iff.mp h
  cases entry with
  | obj members =>
    obtain ⟨hinputs, houtputs⟩ := readAll_of_read_method h
    refine ⟨?_, (orElse_eq_items_of_readAll hinputs).2, (orElse_eq_items_of_readAll houtputs).2⟩
    rw [Json.memberOr_of_require hname]
    obtain ⟨_, -, hrest⟩ := bind_eq_ok_iff.mp hrest
    obtain ⟨_, -, hrest⟩ := bind_eq_ok_iff.mp hrest
    obtain ⟨_, -, hrest⟩ := bind_eq_ok_iff.mp hrest
    obtain ⟨_, -, hrest⟩ := bind_eq_ok_iff.mp hrest
    rw [← Except.ok.inj hrest]
  | _ => cases hname

theorem Event.of_read {e : Event} (h : Event.read entry = .ok e) :
    e.name = entry.memberOr "name" .null := by
  obtain ⟨raw, hraw, h⟩ := bind_eq_ok_iff.mp h
  obtain ⟨_, -, h⟩ := bind_eq_ok_iff.mp h
  obtain ⟨_, -, h⟩ := bind_eq_ok_iff.mp h
  obtain ⟨name, hname, h⟩ := bind_eq_ok_iff.mp h
  obtain ⟨_, -, h⟩ := bind_eq_ok_iff.mp h
  rw [← Except.ok.inj h]
  cases entry with
  | obj members => exact (Json.memberOr_of_require hname .null).symm
  | _ => cases hraw

theorem declaredKind_of_group (h : entryGroup entry ≠ .event ∧ entryGroup entry ≠ .skipped) :
    (declaredKind entry).string? = some "function" := by
  rcases entryGroup_cases entry with ⟨hkind, -⟩ | ⟨-, hgroup⟩ | ⟨-, -, hgroup⟩
  · exact hkind
  · exact absurd hgroup h.1
  · exact absurd hgroup h.2

theorem group_eq_of_view (hview : entryView entry = entryView entry') :
    entryGroup entry = entryGroup entry' := by
  rw [← group_entryView, hview, group_entryView]

theorem methodText_eq_of_view (hview : entryView entry = entryView entry')
    (hgroup : entryGroup entry ≠ .event ∧ entryGroup entry ≠ .skipped) {m m' : Method}
    (h : Method.read entry = .ok m) (h' : Method.read entry' = .ok m') :
    methodText m = methodText m' := by
  have hkind := declaredKind_of_group hgroup
  have hkind' := declaredKind_of_group (group_eq_of_view hview ▸ hgroup)
  rw [entryView_of_function hkind, entryView_of_function hkind'] at hview
  obtain ⟨hname, -, hinputs, houtputs⟩ := EntryView.function.inj hview
  obtain ⟨hm, hreadInputs, hreadOutputs⟩ := Method.of_read h
  obtain ⟨hm', hreadInputs', hreadOutputs'⟩ := Method.of_read h'
  have hface : ∀ items items' : List Json, items.map parameterView = items'.map parameterView →
      ∀ ps ps' : List Parameter, items.mapM Parameter.read = .ok ps →
        items'.mapM Parameter.read = .ok ps' → ps.map Parameter.face = ps'.map Parameter.face :=
    fun items items' hviews ps ps' ↦
      map_eq_of_mapM (fun _ _ _ hview _ _ ↦ Parameter.face_eq_of_view hview) hviews
  exact methodText_eq_of_face (by rw [hm, hm', hname])
    (hface _ _ hinputs _ _ hreadInputs hreadInputs')
    (hface _ _ houtputs _ _ hreadOutputs hreadOutputs')

theorem declaredKind_of_event (h : entryGroup entry = .event) :
    (declaredKind entry).string? = some "event" := by
  rcases entryGroup_cases entry with ⟨-, hgroup, -⟩ | ⟨hkind, -⟩ | ⟨-, -, hgroup⟩
  · exact absurd h hgroup
  · exact hkind
  · rw [h] at hgroup
    cases hgroup

theorem eventName_eq_of_view (hview : entryView entry = entryView entry')
    (hgroup : entryGroup entry = .event) {e e' : Event} (h : Event.read entry = .ok e)
    (h' : Event.read entry' = .ok e') : e.name = e'.name := by
  have hkind := declaredKind_of_event hgroup
  have hkind' := declaredKind_of_event (group_eq_of_view hview ▸ hgroup)
  rw [entryView_of_event hkind, entryView_of_event hkind'] at hview
  rw [Event.of_read h, Event.of_read h', EntryView.event.inj hview]

theorem skippedNote_eq_of_view (hview : entryView entry = entryView entry')
    (hgroup : entryGroup entry = .skipped) (filePath : Text) :
    skippedNote filePath entry = skippedNote filePath entry' := by
  have hnote := note_entryView hgroup filePath
  have hnote' := note_entryView (group_eq_of_view hview ▸ hgroup) filePath
  rw [hview] at hnote
  exact Option.some.inj (hnote.symm.trans hnote')

end Entries

/-! ## Differences that are not shown -/

/-- Values in the place of a parameter that differ in nothing the typings show: in members that are
never looked up and in the digits of types, at every depth of their components. -/
inductive ParameterTwins : Json → Json → Prop
  /-- There is no difference. -/
  | refl (v : Json) : ParameterTwins v v
  /-- Both are objects. -/
  | obj {members members' : List (Text × Json)}
      (name : members.lookup ("name" : Text) = members'.lookup ("name" : Text))
      (type : typeView ((Json.obj members).memberOr "type" .null)
        = typeView ((Json.obj members').memberOr "type" .null))
      (components : List.Forall₂ ParameterTwins
        ((Json.obj members).memberOr "components" .null).items
        ((Json.obj members').memberOr "components" .null).items) :
      ParameterTwins (.obj members) (.obj members')

/-- Entries that differ in nothing the typings and the notes show. Besides the differences of
parameters these are payments, the mutabilities that allow changes, the arguments of events, and
everything but the kind and the name of what is skipped. -/
inductive EntryTwins : Json → Json → Prop
  /-- Both are functions. -/
  | function {members members' : List (Text × Json)}
      (kind : (declaredKind (.obj members)).string? = some "function")
      (kind' : (declaredKind (.obj members')).string? = some "function")
      (name : members.lookup ("name" : Text) = members'.lookup ("name" : Text))
      (constant : members.lookup ("constant" : Text) = members'.lookup ("constant" : Text))
      (mutability : ((Json.obj members).memberOr "stateMutability" .null).isText ["view", "pure"]
        = ((Json.obj members').memberOr "stateMutability" .null).isText ["view", "pure"])
      (inputs : List.Forall₂ ParameterTwins ((Json.obj members).memberOr "inputs" .null).items
        ((Json.obj members').memberOr "inputs" .null).items)
      (outputs : List.Forall₂ ParameterTwins ((Json.obj members).memberOr "outputs" .null).items
        ((Json.obj members').memberOr "outputs" .null).items) :
      EntryTwins (.obj members) (.obj members')
  /-- Both are events. -/
  | event {members members' : List (Text × Json)}
      (kind : (declaredKind (.obj members)).string? = some "event")
      (kind' : (declaredKind (.obj members')).string? = some "event")
      (name : members.lookup ("name" : Text) = members'.lookup ("name" : Text)) :
      EntryTwins (.obj members) (.obj members')
  /-- Both are skipped. -/
  | skipped {members members' : List (Text × Json)}
      (function : (declaredKind (.obj members)).string? ≠ some "function")
      (event : (declaredKind (.obj members)).string? ≠ some "event")
      (kind : declaredKind (.obj members) = declaredKind (.obj members'))
      (name : members.lookup ("name" : Text) = members'.lookup ("name" : Text)) :
      EntryTwins (.obj members) (.obj members')

section Twins

theorem map_parameterView_eq_of_twins {α : Type} {read : Json → Except Fault α}
    {items items' : List Json} {results results' : List α}
    (h : ∀ item ∈ items, ∀ item', ParameterTwins item item' → ∀ result result',
      read item = .ok result → read item' = .ok result' → parameterView item = parameterView item')
    (htwins : List.Forall₂ ParameterTwins items items') (hread : items.mapM read = .ok results)
    (hread' : items'.mapM read = .ok results') :
    items.map parameterView = items'.map parameterView := by
  induction htwins generalizing results results' with
  | nil => rfl
  | @cons item item' items items' hitem hitems ih =>
    obtain ⟨result, others, hresult, hothers, rfl⟩ := mapM_cons_eq_ok_iff.mp hread
    obtain ⟨result', others', hresult', hothers', rfl⟩ := mapM_cons_eq_ok_iff.mp hread'
    rw [List.map_cons, List.map_cons, h item List.mem_cons_self item' hitem _ _ hresult hresult',
      ih (fun other hother ↦ h other (List.mem_cons_of_mem item hother)) hothers hothers']

theorem parameterView_eq_of_parts {v v' : Json} {t t' : EvmType} (htwins : ParameterTwins v v')
    (hparts : ∀ part ∈ Parameter.parts v, ∀ part', ParameterTwins part part' → ∀ t t',
      Parameter.readType part = .ok t → Parameter.readType part' = .ok t' →
        parameterView part = parameterView part')
    (h : Parameter.readType v = .ok t) (h' : Parameter.readType v' = .ok t') :
    parameterView v = parameterView v' := by
  cases htwins with
  | refl => rfl
  | @obj members members' hname htype hcomponents =>
    obtain ⟨sig, hsig, hlisted⟩ := Parameter.exists_signature?_of_readType h
    obtain ⟨sig', hsig', hlisted'⟩ := Parameter.exists_signature?_of_readType h'
    have htuple : Parameter.isTuple (.obj members) = Parameter.isTuple (.obj members') := by
      have hbase : sig.base.bare = sig'.base.bare :=
        congrArg Signature.base (bare_eq_of_typeView htype hsig hsig')
      rw [Bool.eq_iff_iff, Parameter.isTuple_iff hsig, Parameter.isTuple_iff hsig',
        ← Signature.Base.bare_eq_tuple_iff, hbase, Signature.Base.bare_eq_tuple_iff]
    have hviews : (Parameter.parts (.obj members)).map parameterView
        = (Parameter.parts (.obj members')).map parameterView := by
      rw [Parameter.readType_of_signature? hsig hlisted] at h
      rw [Parameter.readType_of_signature? hsig' hlisted'] at h'
      obtain ⟨cs, hcs, -⟩ := map_eq_ok_iff.mp h
      obtain ⟨cs', hcs', -⟩ := map_eq_ok_iff.mp h'
      refine map_parameterView_eq_of_twins (fun part hpart part' htwins c c' hc hc' ↦ ?_) ?_
        hcs hcs'
      · exact hparts part hpart part' htwins _ _ (Component.of_read hc).2 (Component.of_read hc').2
      · rw [Parameter.parts, Parameter.parts, htuple]
        split
        · exact hcomponents
        · exact .nil
    rw [parameterView_eq, parameterView_eq, htype, hviews]
    simp only [Json.memberOr, hname]

/-- Twins that are read have the same views. Others need not: whether a type is a tuple can be a
matter of its digits, where these are too many. -/
theorem parameterView_eq_of_twins (v : Json) : ∀ v', ParameterTwins v v' → ∀ t t',
    Parameter.readType v = .ok t → Parameter.readType v' = .ok t' →
      parameterView v = parameterView v' := by
  intro v' htwins t t' h h'
  exact parameterView_eq_of_parts htwins (fun part hpart ↦ parameterView_eq_of_twins part) h h'
termination_by sizeOf v
decreasing_by exact Parameter.sizeOf_lt_of_mem_parts hpart

theorem entryView_eq_of_twins {filePath : Text} {entry entry' : Json} {d d' : Declaration}
    (htwins : EntryTwins entry entry') (h : Declaration.read filePath entry = .ok d)
    (h' : Declaration.read filePath entry' = .ok d') : entryView entry = entryView entry' := by
  cases htwins with
  | @function members members' hkind hkind' hname hconstant hmutability hinputs houtputs =>
    have hfunction : ∀ entry : Json, (declaredKind entry).string? = some "function" →
        declaresFunction entry = true := fun entry hkind ↦
      Json.isText_map_ofString_iff.mpr ⟨"function", List.mem_singleton_self _, hkind⟩
    obtain ⟨m, -, hm⟩ := Declaration.exists_method h (hfunction _ hkind)
    obtain ⟨m', -, hm'⟩ := Declaration.exists_method h' (hfunction _ hkind')
    obtain ⟨-, hreadInputs, hreadOutputs⟩ := Method.of_read hm
    obtain ⟨-, hreadInputs', hreadOutputs'⟩ := Method.of_read hm'
    have hviews : ∀ items items' : List Json, List.Forall₂ ParameterTwins items items' →
        ∀ ps ps' : List Parameter, items.mapM Parameter.read = .ok ps →
          items'.mapM Parameter.read = .ok ps' →
            items.map parameterView = items'.map parameterView :=
      fun items items' htwins ps ps' ↦
        map_parameterView_eq_of_twins (fun item _ item' htwins p p' hp hp' ↦
          parameterView_eq_of_twins item item' htwins _ _ (Parameter.of_read hp).2
            (Parameter.of_read hp').2) htwins
    have hreads : readsOnly (.obj members) = readsOnly (.obj members') := by
      rw [readsOnly, readsOnly, hmutability]
      simp only [Json.memberOr, hconstant]
    rw [entryView_of_function hkind, entryView_of_function hkind', hreads,
      hviews _ _ hinputs _ _ hreadInputs hreadInputs',
      hviews _ _ houtputs _ _ hreadOutputs hreadOutputs']
    simp only [Json.memberOr, hname]
  | event hkind hkind' hname =>
    rw [entryView_of_event hkind, entryView_of_event hkind']
    simp only [Json.memberOr, hname]
  | skipped hfunction hevent hkind hname =>
    rw [entryView_of_other hfunction hevent,
      entryView_of_other (hkind ▸ hfunction) (hkind ▸ hevent), hkind]
    simp only [Json.memberOr, hname]

/-- **Differences that are not shown.** Accepted descriptions whose entries are twins have the same
views. -/
theorem map_entryView_eq_of_twins {name : Json} {filePath : Text} {entries entries' : List Json}
    {c c' : Contract} (htwins : List.Forall₂ EntryTwins entries entries')
    (h : (Contract.readEntries name filePath entries).result = .ok c)
    (h' : (Contract.readEntries name filePath entries').result = .ok c') :
    entries.map entryView = entries'.map entryView := by
  obtain ⟨ds, hread, -⟩ := readEntries_eq_ok h
  obtain ⟨ds', hread', -⟩ := readEntries_eq_ok h'
  clear h h'
  induction htwins generalizing ds ds' with
  | nil => rfl
  | cons hentry hentries ih =>
    obtain ⟨d, rest, hd, hrest, -⟩ := Declaration.readAll_cons_eq_none hread
    obtain ⟨d', rest', hd', hrest', -⟩ := Declaration.readAll_cons_eq_none hread'
    rw [List.map_cons, List.map_cons, entryView_eq_of_twins hentry hd hd',
      ih rest hrest rest' hrest']

end Twins

/-! ## Descriptions -/

section Descriptions

variable {name : Json} {filePath : Text} {entries entries' : List Json} {c c' : Contract}

theorem map_entryView_filter (hview : entries.map entryView = entries'.map entryView)
    (g : EntryGroup) :
    (entries.filter fun entry ↦ entryGroup entry = g).map entryView
      = (entries'.filter fun entry ↦ entryGroup entry = g).map entryView := by
  have hfilter : ∀ entries : List Json,
      (entries.filter fun entry ↦ entryGroup entry = g).map entryView
        = (entries.map entryView).filter fun view ↦ view.group = g := by
    intro entries
    rw [List.filter_map]
    simp only [Function.comp_def, group_entryView]
  rw [hfilter, hfilter, hview]

theorem exists_method_of_signatureLine {entry : Json} {line : Text}
    (h : signatureLine entry = .ok line) :
    ∃ m, Method.read entry = .ok m ∧ line = "    " ++ methodText m := by
  obtain ⟨f, hf, -⟩ := bind_eq_ok_iff.mp h
  have hm := Method.read_of_read_function hf
  exact ⟨f.toMethod, hm, Except.ok.inj (h.symm.trans (signatureLine_of_read hm))⟩

theorem lines_eq_of_views {g : EntryGroup} (hg : g ≠ .event ∧ g ≠ .skipped)
    (hview : entries.map entryView = entries'.map entryView) {lines lines' : List Text}
    (h : (entries.filter fun entry ↦ entryGroup entry = g).mapM signatureLine = .ok lines)
    (h' : (entries'.filter fun entry ↦ entryGroup entry = g).mapM signatureLine = .ok lines') :
    lines = lines' := by
  have hmap : lines.map id = lines'.map id := by
    refine map_eq_of_mapM (fun entry hentry entry' hview line line' hline hline' ↦ ?_)
      (map_entryView_filter hview g) h h'
    obtain ⟨m, hm, rfl⟩ := exists_method_of_signatureLine hline
    obtain ⟨m', hm', rfl⟩ := exists_method_of_signatureLine hline'
    have hgroup : entryGroup entry = g := of_decide_eq_true (List.mem_filter.mp hentry).2
    rw [methodText_eq_of_view hview (hgroup ▸ hg) hm hm']
  simpa using hmap

theorem exists_methodRows_eq (h : (Contract.readEntries name filePath entries).result = .ok c) :
    ∃ constantLines functionLines accessorLines,
      (entries.filter fun entry ↦ entryGroup entry = .constantFunction).mapM signatureLine
        = .ok constantLines ∧
      (entries.filter fun entry ↦ entryGroup entry = .function).mapM signatureLine
        = .ok functionLines ∧
      (entries.filter fun entry ↦ entryGroup entry = .accessor).mapM signatureLine
        = .ok accessorLines ∧
      methodRows c = constantLines ++ functionLines ++ accessorLines := by
  have hrenders : c.Renders := (Contract.yields_readEntries name filePath entries).of_ok h
  have hrows := (writes_methodLines hrenders).symm.trans (writes_methods hrenders)
  obtain ⟨ds, hread, rfl⟩ := readEntries_eq_ok h
  rw [Declaration.methods_ofDeclarations, List.map_append, List.map_append] at hrows
  exact ⟨_, _, _, Declaration.mapM_signatureLine_group (by decide) hread,
    Declaration.mapM_signatureLine_group (by decide) hread,
    Declaration.mapM_signatureLine_group (by decide) hread, (EStateM.Result.ok.inj hrows).1⟩

theorem methodRows_eq_of_views (hview : entries.map entryView = entries'.map entryView)
    (h : (Contract.readEntries name filePath entries).result = .ok c)
    (h' : (Contract.readEntries name filePath entries').result = .ok c') :
    methodRows c = methodRows c' := by
  obtain ⟨_, _, _, hconstant, hfunction, haccessor, hrows⟩ := exists_methodRows_eq h
  obtain ⟨_, _, _, hconstant', hfunction', haccessor', hrows'⟩ := exists_methodRows_eq h'
  rw [hrows, hrows', lines_eq_of_views (by decide) hview hconstant hconstant',
    lines_eq_of_views (by decide) hview hfunction hfunction',
    lines_eq_of_views (by decide) hview haccessor haccessor']

theorem eventRows_eq_of_names (h : c.events.map Event.name = c'.events.map Event.name) :
    eventRows c = eventRows c' := by
  have hnames : ∀ c : Contract, eventRows c = (c.events.map Event.name).flatMap (fun name ↦
      subscriptionRows (name.display ++ "(") "): EventEmitter;") ++
        subscriptionRows "allEvents: (" ") => EventEmitter;" := by
    intro c
    rw [List.flatMap_map]
    rfl
  rw [hnames, hnames, h]

/-- **The text depends on the view.** Accepted descriptions with the same views have the same
typings and leave the same notes. -/
theorem typings_of_views (hview : entries.map entryView = entries'.map entryView)
    (h : (Contract.readEntries name filePath entries).result = .ok c)
    (h' : (Contract.readEntries name filePath entries').result = .ok c') :
    (∃ document, typings c = .ok document ∧ typings c' = .ok document) ∧
      (Contract.readEntries name filePath entries).notes
        = (Contract.readEntries name filePath entries').notes := by
  have hrenders : c.Renders := (Contract.yields_readEntries name filePath entries).of_ok h
  have hrenders' : c'.Renders := (Contract.yields_readEntries name filePath entries').of_ok h'
  have hmethods := methodRows_eq_of_views hview h h'
  obtain ⟨ds, hread, rfl⟩ := readEntries_eq_ok h
  obtain ⟨ds', hread', rfl⟩ := readEntries_eq_ok h'
  have hsorted := isPartition_ofDeclarations hread name
  have hsorted' := isPartition_ofDeclarations hread' name
  constructor
  · have hevents : eventRows (Contract.ofDeclarations name ds)
        = eventRows (Contract.ofDeclarations name ds') := by
      refine eventRows_eq_of_names (map_eq_of_mapM (fun entry hentry entry' hview e e' ↦ ?_)
        (map_entryView_filter hview .event) hsorted.events hsorted'.events)
      exact eventName_eq_of_view hview (of_decide_eq_true (List.mem_filter.mp hentry).2)
    refine ⟨joinLines (documentRows (Contract.ofDeclarations name ds)), ?_, ?_⟩
    · rw [typings, writes_documentText hrenders]
    · rw [typings, writes_documentText hrenders', documentRows, documentRows, classRows, classRows,
        hmethods, hevents]
      rfl
  · rw [Contract.readEntries_of_none hread, Contract.readEntries_of_none hread', hsorted.skipped,
      hsorted'.skipped]
    refine map_eq_of_view (fun entry hentry entry' hview ↦ ?_) (map_entryView_filter hview .skipped)
    exact skippedNote_eq_of_view hview (of_decide_eq_true (List.mem_filter.mp hentry).2) filePath

end Descriptions

private def viewedLedgerEntries : List Json :=
  [.obj [("name", .str "post"), ("stateMutability", .str "payable"),
      ("inputs", .arr [.obj [("name", .str "flags"), ("type", .str "bool[8]")]])],
    .obj [("type", .str "event"), ("name", .str "Posted"),
      ("inputs", .arr [.obj [("type", .str "bool")]])],
    .obj [("type", .str "error"), ("name", .str "Full")]]

/-- A description of another ledger that looks the same. It has another size, other arguments of the
event, no payments and members that are never looked up. -/
private def otherLedgerEntries : List Json :=
  [.obj [("type", .str "function"), ("name", .str "post"), ("payable", .bool false),
      ("inputs", .arr [.obj [("type", .str "bool[]"), ("internalType", .str "Flags"),
        ("name", .str "flags")]])],
    .obj [("type", .str "event"), ("name", .str "Posted"), ("anonymous", .bool true)],
    .obj [("name", .str "Full"), ("type", .str "error"), ("inputs", .null)]]

/-- The contract of a ledger with flags of a size. -/
private def viewedLedger (size : Option Int) (posted : Event) : Contract where
  name := .str "Ledger"
  functions := [⟨⟨.str "post", [⟨.str "flags", .array .bool size⟩], []⟩, size.isSome⟩]
  constantFunctions := []
  accessors := []
  events := [posted]

theorem typings_of_views_ledger :
    viewedLedgerEntries.map entryView = otherLedgerEntries.map entryView ∧
    ∃ c c', (Contract.readEntries (.str "Ledger") "" viewedLedgerEntries).result = .ok c ∧
      (Contract.readEntries (.str "Ledger") "" otherLedgerEntries).result = .ok c' ∧
      ∃ document, typings c = .ok document ∧ typings c' = .ok document := by
  have hread : (Contract.readEntries (.str "Ledger") "" viewedLedgerEntries).result
      = .ok (viewedLedger (some 8) ⟨.str "Posted", [⟨⟨.null, .bool⟩, false⟩], false⟩) := by
    cbv
  have hread' : (Contract.readEntries (.str "Ledger") "" otherLedgerEntries).result
      = .ok (viewedLedger none ⟨.str "Posted", [], true⟩) := by
    cbv
  have hview : viewedLedgerEntries.map entryView = otherLedgerEntries.map entryView := by
    refine map_entryView_eq_of_twins (.cons ?_ (.cons ?_ (.cons ?_ .nil))) hread hread'
    · exact .function rfl rfl rfl rfl rfl (.cons (.obj rfl rfl .nil) .nil) .nil
    · exact .event rfl rfl rfl
    · exact .skipped (by decide) (by decide) rfl rfl
  exact ⟨hview, _, _, hread, hread', (typings_of_views hview hread hread').1⟩

end AbiTypings
