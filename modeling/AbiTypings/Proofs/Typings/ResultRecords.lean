import Mathlib.Data.List.Nodup
import AbiTypings.Proofs.EvmType.Unambiguous
import AbiTypings.Proofs.Text.Records
import AbiTypings.Proofs.Typings.Nesting

/-!
# Records of several results

The result of a call with several outputs is a record in which an output with a name has two fields,
one under its name and one under its place. The statement is about what a reader of the text finds,
so it goes through `Text.recordFields?`, which knows nothing about outputs.

`IsCompleteRecord` lists what fields have to be: the named outputs in order, then all outputs under
their places, all names different, and the same type in the two fields of an output. Names of
outputs are words that start with no digit, so a name is never a place. The fields are read from the
text exactly if every type of an output is a piece of its own (`renderOutputs_complete`). Types are
pieces if their components are named by words, but names of components go into the text as they are,
and brackets in them can end a record early (`renderOutputs_complete_broken`).
-/

namespace AbiTypings

open Text

/-! ## Types as pieces -/

namespace EvmType

variable {d : Direction}

theorem isPiece_of_render {t : EvmType} {s : Text} (hnames : t.HasWordNames)
    (h : t.render d = .ok s) : IsPiece comma s.toList := by
  cases isRendering_of_render h with
  | leaf text =>
    have hall : ∀ s ∈ leafTexts, IsPiece comma s.toList := by decide
    exact hall s (mem_leafTexts text)
  | array text =>
    rw [HasWordNames] at hnames
    rw [arrayText, toList_append, toList_append]
    exact isPiece_enclosed (b := .round) (by decide) (isInline_of_render hnames text).nested
      (by decide)
  | @tuple components fields texts =>
    rw [HasWordNames] at hnames
    have hfields := isInline_of_renderFields hnames texts
    have hcomma : IsInline ", " := ⟨by decide, by decide⟩
    rw [recordText]
    split
    · decide
    · rw [toList_append, toList_append]
      exact isPiece_enclosed (b := .curly) (by decide) (isInline_intercalate hcomma hfields).nested
        (by decide)

end EvmType

/-! ## Names of outputs -/

/-- The outputs that have names. -/
def namedOutputs (outputs : List Parameter) : List Parameter :=
  outputs.filter fun p ↦ p.name.truthy

/-- Names of outputs are words that start with no digit, or say nothing, and no two of them are the
same. -/
structure HaveResultNames (outputs : List Parameter) : Prop where
  /-- Names are words, or say nothing. -/
  words : ∀ p ∈ outputs, p.name.IsWordOrMissing
  /-- Names start with no digit. -/
  noDigit : ∀ p ∈ namedOutputs outputs, ∀ c : Char, .char c ∈ p.name.display.toList.head? →
    c.isDigit = false
  /-- Names are different. -/
  apart : (namedOutputs outputs).Pairwise fun p q ↦ p.name ≠ q.name

/-! ## Fields -/

/-- What the fields of a record of results have to be. -/
structure IsCompleteRecord (outputs : List Parameter) (fields : List Field) : Prop where
  /-- There is a field for each name and one for each place. -/
  count : fields.length = (namedOutputs outputs).length + outputs.length
  /-- No two fields have the same name. -/
  distinct : (fields.map Prod.fst).Nodup
  /-- The first fields are those of the named outputs, in order. -/
  named : fields.take (namedOutputs outputs).length
    = (namedOutputs outputs).map fun p ↦ (p.name.display, p.type.rendering .output)
  /-- The others are those of the places, in order. -/
  placed : fields.drop (namedOutputs outputs).length
    = outputs.zipIdx.map fun (p, i) ↦ ((toString i : Text), p.type.rendering .output)
  /-- The two fields of an output have the same type. -/
  paired : ∀ (i : Nat) (p : Parameter) (type : Text), outputs[i]? = some p →
    p.name.truthy = true → ((p.name.display, type) ∈ fields ↔ (↑(toString i), type) ∈ fields)

/-- The fields of a record of results. -/
def resultRecord (outputs : List Parameter) : List Field :=
  ((namedOutputs outputs).map fun p ↦ (p.name.display, p.type.rendering .output)) ++
    outputs.zipIdx.map fun (p, i) ↦ ((toString i : Text), p.type.rendering .output)

section Results

variable {outputs : List Parameter}

theorem resultFields_eq_map (outputs : List Parameter) :
    resultFields outputs = (resultRecord outputs).map fun f ↦ (f.1 ++ ": " ++ f.2 : Text) := by
  rw [resultFields, resultRecord, List.map_append, List.map_map, List.map_map]
  rfl

theorem IsCompleteRecord.eq {fields : List Field} (h : IsCompleteRecord outputs fields) :
    fields = resultRecord outputs := by
  rw [← List.take_append_drop (namedOutputs outputs).length fields, h.named, h.placed, resultRecord]

/-! ## Names that differ -/

theorem HaveResultNames.exists_name (h : HaveResultNames outputs) {p : Parameter}
    (hp : p ∈ namedOutputs outputs) : ∃ s, p.name = .str s ∧ ∀ c ∈ s.toList, isWord c = true := by
  obtain ⟨hmem, htruthy⟩ := List.mem_filter.mp hp
  rcases h.words p hmem with hmissing | ⟨s, hs, -, hword⟩
  · rw [hmissing] at htruthy
    cases htruthy
  · exact ⟨s, hs, hword⟩

theorem isDigit_head_toString (i : Nat) :
    ∃ c : Char, .char c ∈ (toString i : Text).toList.head? ∧ c.isDigit = true := by
  have hlist : (toString i : Text).toList = (Nat.toDigits 10 i).map .char := by
    rw [toList_ofString, Nat.toString_eq_repr, Nat.toList_repr]
  obtain ⟨c, rest, hcons⟩ := List.exists_cons_of_ne_nil (Nat.toDigits_ne_nil (n := i) (b := 10))
  refine ⟨c, by rw [hlist, hcons]; rfl, ?_⟩
  have hmem : c ∈ Nat.toDigits 10 i := by rw [hcons]; exact List.mem_cons_self
  exact Nat.isDigit_of_mem_toDigits (by decide) (by decide) hmem

theorem map_fst_places (outputs : List Parameter) :
    ((outputs.zipIdx.map fun (p, i) ↦ ((toString i : Text), p.type.rendering .output)).map Prod.fst)
      = (List.range outputs.length).map fun i ↦ (toString i : Text) := by
  rw [List.range_eq_range', ← List.zipIdx_map_snd 0 outputs, List.map_map, List.map_map]
  rfl

theorem HaveResultNames.nodup (h : HaveResultNames outputs) :
    ((resultRecord outputs).map Prod.fst).Nodup := by
  have hnamed : ((namedOutputs outputs).map fun p ↦ p.name.display).Nodup := by
    refine List.pairwise_map.mpr (h.apart.imp_of_mem fun {p q} hp hq hne heq ↦ hne ?_)
    obtain ⟨s, hs, -⟩ := h.exists_name hp
    obtain ⟨t, ht, -⟩ := h.exists_name hq
    rw [hs, ht, Json.display, Json.display] at heq
    rw [hs, ht, heq]
  have hplaced : ((List.range outputs.length).map fun i ↦ (toString i : Text)).Nodup :=
    List.nodup_range.map fun _ _ heq ↦ toString_injective (ofString_inj.mp heq)
  have hapart : ((namedOutputs outputs).map fun p ↦ p.name.display).Disjoint
      ((List.range outputs.length).map fun i ↦ (toString i : Text)) := by
    intro name hname hplace
    obtain ⟨p, hp, rfl⟩ := List.mem_map.mp hname
    obtain ⟨i, -, heq⟩ := List.mem_map.mp hplace
    obtain ⟨c, hc, hdigit⟩ := isDigit_head_toString i
    rw [heq] at hc
    rw [h.noDigit p hp c hc] at hdigit
    cases hdigit
  rw [resultRecord, List.map_append, map_fst_places, List.map_map]
  exact List.nodup_append'.mpr ⟨hnamed, hplaced, hapart⟩

theorem HaveResultNames.isCompleteRecord (h : HaveResultNames outputs) :
    IsCompleteRecord outputs (resultRecord outputs) := by
  have hlength : ((namedOutputs outputs).map fun p ↦
      (p.name.display, p.type.rendering .output)).length = (namedOutputs outputs).length :=
    List.length_map _
  refine ⟨?_, h.nodup, ?_, ?_, ?_⟩
  · rw [resultRecord, List.length_append, List.length_map, List.length_map, List.length_zipIdx]
  · rw [resultRecord, ← hlength, List.take_left]
  · rw [resultRecord, ← hlength, List.drop_left]
  · intro i p type hi hdeclared
    have hname : (p.name.display, p.type.rendering .output) ∈ resultRecord outputs :=
      List.mem_append_left _ (List.mem_map_of_mem
        (List.mem_filter.mpr ⟨List.mem_of_getElem? hi, hdeclared⟩))
    have hplace : ((toString i : Text), p.type.rendering .output) ∈ resultRecord outputs :=
      List.mem_append_right _ (List.mem_map.mpr ⟨(p, i), List.mem_zipIdx_iff_getElem?.mpr hi, rfl⟩)
    -- With distinct names, the type of a field is known from its name.
    have htype : ∀ {name type : Text}, (name, type) ∈ resultRecord outputs →
        (name, p.type.rendering .output) ∈ resultRecord outputs →
        type = p.type.rendering .output := by
      intro name type hmem hmem'
      exact congrArg Prod.snd (List.inj_on_of_nodup_map h.nodup hmem hmem' rfl)
    constructor
    · intro hmem
      rw [htype hmem hname]
      exact hplace
    · intro hmem
      rw [htype hmem hplace]
      exact hname

theorem isFieldName_of_isWord {name : Text} (h : ∀ c ∈ name.toList, isWord c = true) :
    IsFieldName name := by
  have hsigns : ([',', ':'].all fun s ↦ !isWord s) = true := by decide +kernel
  intro c hc
  obtain ⟨hcomma, hcolon⟩ := List.forall_mem_cons.mp (ne_of_all_not hsigns (h c hc))
  exact ⟨(isPlain_of_isWord (h c hc)).1, hcomma, hcolon _ (List.mem_singleton_self _)⟩

theorem HaveResultNames.isFieldName (h : HaveResultNames outputs) :
    ∀ f ∈ resultRecord outputs, IsFieldName f.1 := by
  intro f hf
  rcases List.mem_append.mp hf with hnamed | hplaced
  · obtain ⟨p, hp, rfl⟩ := List.mem_map.mp hnamed
    obtain ⟨s, hs, hword⟩ := h.exists_name hp
    rw [hs]
    exact isFieldName_of_isWord hword
  · obtain ⟨⟨p, i⟩, -, rfl⟩ := List.mem_map.mp hplaced
    refine isFieldName_of_isWord fun c (hc : c ∈ (toString i : Text).toList) ↦ ?_
    rw [toList_ofString, Nat.toString_eq_repr, Nat.toList_repr] at hc
    obtain ⟨digit, hdigit, rfl⟩ := List.mem_map.mp hc
    exact isWord_of_isDigit (Nat.isDigit_of_mem_toDigits (by decide) (by decide) hdigit)

theorem forall_resultRecord_iff {P : Text → Prop} :
    (∀ f ∈ resultRecord outputs, P f.2) ↔ ∀ p ∈ outputs, P (p.type.rendering .output) := by
  constructor
  · intro hall p hp
    obtain ⟨i, hi⟩ := List.mem_iff_getElem?.mp hp
    exact hall ((toString i : Text), p.type.rendering .output) (List.mem_append_right _
      (List.mem_map.mpr ⟨(p, i), List.mem_zipIdx_iff_getElem?.mpr hi, rfl⟩))
  · intro hall f hf
    rcases List.mem_append.mp hf with hnamed | hplaced
    · obtain ⟨p, hp, rfl⟩ := List.mem_map.mp hnamed
      exact hall p (List.mem_of_mem_filter hp)
    · obtain ⟨⟨p, i⟩, hp, rfl⟩ := List.mem_map.mp hplaced
      exact hall p (List.fst_mem_of_mem_zipIdx hp)

theorem resultText_eq (h : 2 ≤ outputs.length) : resultText outputs
    = "\x7b " ++ Text.intercalate ", "
        ((resultRecord outputs).map fun f ↦ (f.1 ++ ": " ++ f.2 : Text)) ++ " \x7d" := by
  match outputs, h with
  | p :: q :: rest, _ =>
    rw [← resultFields_eq_map]
    rfl

/-- **Records of several results.** Where the names of two outputs or more are different words, and
all types have renderings, the fields that are read from the record of the results are complete
exactly if each type is a piece. Types whose components are named by words are. -/
theorem renderOutputs_complete (hmany : 2 ≤ outputs.length)
    (hrenders : ∀ p ∈ outputs, p.type.Renders .output) (hnames : HaveResultNames outputs) :
    ∃ text, renderOutputs outputs = .ok text ∧
      ((∃ fields, recordFields? text = some fields ∧ IsCompleteRecord outputs fields) ↔
        ∀ p ∈ outputs, IsPiece comma (p.type.rendering .output).toList) ∧
      ∀ p ∈ outputs, p.type.HasWordNames →
        IsPiece comma (p.type.rendering .output).toList := by
  refine ⟨resultText outputs, renderOutputs_eq hrenders, ?_, ?_⟩
  · have hne : resultRecord outputs ≠ [] := by
      intro hnil
      have hcount := hnames.isCompleteRecord.count
      rw [hnil, List.length_nil] at hcount
      omega
    have hread := recordFields?_eq_iff hne hnames.isFieldName
    rw [← resultText_eq hmany,
      forall_resultRecord_iff (P := fun type ↦ IsPiece comma type.toList)] at hread
    rw [← hread]
    constructor
    · rintro ⟨fields, hfields, hcomplete⟩
      rw [hfields, hcomplete.eq]
    · intro hfields
      exact ⟨_, hfields, hnames.isCompleteRecord⟩
  · intro p hp hword
    exact EvmType.isPiece_of_render hword (hrenders p hp).render_eq

/-- A balance, a position that is not named, and whether all is well. -/
private def account : List Parameter :=
  [⟨.str "balance", .uint 256⟩,
    ⟨.null, .tuple [(.str "x", .int 8), (.str "", .array .bool none)]⟩,
    ⟨.str "ok", .bool⟩]

/-- The record of an account has five fields: two names and three places. -/
theorem renderOutputs_complete_account : ∃ text fields, renderOutputs account = .ok text ∧
    recordFields? text = some fields ∧ IsCompleteRecord account fields ∧ fields.length = 5 := by
  have hbalance : (Json.str "balance").IsWord := Json.isWord_str (by decide) (by decide +kernel)
  have hx : (Json.str "x").IsWord := Json.isWord_str (by decide) (by decide +kernel)
  have hok : (Json.str "ok").IsWord := Json.isWord_str (by decide) (by decide +kernel)
  have hmap : ∀ p ∈ account, p.type.Supported .output ∧ p.HasWordNames :=
    List.forall_mem_cons.mpr ⟨⟨trivial, ⟨.inr hbalance, trivial⟩⟩,
      List.forall_mem_cons.mpr ⟨⟨⟨trivial, trivial, trivial⟩,
        ⟨.inl rfl, ⟨.inr hx, trivial⟩, ⟨.inl rfl, trivial⟩, trivial⟩⟩,
        List.forall_mem_cons.mpr ⟨⟨trivial, ⟨.inr hok, trivial⟩⟩, List.forall_mem_nil _⟩⟩⟩
  have hnamed : namedOutputs account = [⟨.str "balance", .uint 256⟩, ⟨.str "ok", .bool⟩] := rfl
  have hnames : HaveResultNames account := by
    refine ⟨fun p hp ↦ (hmap p hp).2.name, ?_, ?_⟩
    · simp [hnamed, Json.display, toList_ofString]
    · simp [hnamed]
  obtain ⟨text, htext, hiff, hpieces⟩ := renderOutputs_complete (by decide : 2 ≤ account.length)
    (fun p hp ↦ (hmap p hp).1.renders) hnames
  obtain ⟨fields, hfields, hcomplete⟩ := hiff.mpr fun p hp ↦ hpieces p hp (hmap p hp).2.type
  exact ⟨text, fields, htext, hfields, hcomplete, hcomplete.count⟩

/-- A record whose only component has brackets in its name, and a truth value. -/
private def broken : List Parameter :=
  [⟨.null, .tuple [(.str "a \x7d, b: \x7b c", .bool)]⟩, ⟨.null, .bool⟩]

/-- Brackets in the name of a component end a record early: a third field is read from the results
of two outputs without names. -/
theorem renderOutputs_complete_broken : HaveResultNames broken ∧
    ∃ text, renderOutputs broken = .ok text ∧
      text = "\x7b 0: \x7b a \x7d, b: \x7b c: boolean \x7d, 1: boolean \x7d" ∧
      recordFields? text
        = some ([("0", "\x7b a \x7d"), ("b", "\x7b c: boolean \x7d"), ("1", "boolean")] :
            List Field) ∧
      ¬∃ fields, recordFields? text = some fields ∧ IsCompleteRecord broken fields := by
  have hnamed : namedOutputs broken = [] := rfl
  have hnames : HaveResultNames broken := by
    refine ⟨fun p hp ↦ .inl ?_, ?_, ?_⟩
    · exact Bool.eq_false_iff.mpr fun h ↦ List.filter_eq_nil_iff.mp hnamed p hp h
    · rw [hnamed]
      exact List.forall_mem_nil _
    · rw [hnamed]
      exact .nil
  have hfields : recordFields? "\x7b 0: \x7b a \x7d, b: \x7b c: boolean \x7d, 1: boolean \x7d"
      = some ([("0", "\x7b a \x7d"), ("b", "\x7b c: boolean \x7d"), ("1", "boolean")] :
          List Field) := by
    decide +kernel
  refine ⟨hnames, _, by cbv, rfl, hfields, ?_⟩
  rintro ⟨fields, hread, hcomplete⟩
  obtain rfl := Option.some.inj (hfields.symm.trans hread)
  exact absurd hcomplete.count (by decide)

end Results

end AbiTypings
