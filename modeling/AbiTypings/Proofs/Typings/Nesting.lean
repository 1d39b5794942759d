import AbiTypings.Proofs.Fault.Success
import AbiTypings.Proofs.Text.Brackets
import AbiTypings.Proofs.Typings.Offenders
import AbiTypings.Text.Word

/-!
# Brackets and indentation of a document

All brackets of a document are closed in order, and every line is indented by two blanks for each
bracket that is open where it starts. So the level a document is written under is the number of
open brackets, although writing never looks at a bracket.

Names go into a document as they are, and a name could hold brackets or line feeds of its own. The
statement is about documents whose names are words; parameters and components may also go without a
name.

## Types and rows

Whatever the depth of a type, its rendering closes what it opens and stays inside its row
(`EvmType.isInline_of_render`, by the recursion of rendering). From there on only rows count: the
fixed rows are checked by evaluation, and the rows with names in them are blanks for the open
brackets and a text that starts with a letter.
-/

namespace AbiTypings

open Text

/-! ## Names -/

/-- A name that is a word: letters, digits and underscores, and at least one of them. -/
def Json.IsWord (name : Json) : Prop :=
  ∃ s : Text, name = .str s ∧ s ≠ "" ∧ ∀ c ∈ s.toList, isWord c = true

/-- A name that is a word or says nothing. -/
def Json.IsWordOrMissing (name : Json) : Prop := name.truthy = false ∨ name.IsWord

mutual

/-- The components of all tuples in a type are named by words or not at all. -/
def EvmType.HasWordNames : EvmType → Prop
  | .array item _ => item.HasWordNames
  | .tuple components => HaveWordNames components
  | _ => True

/-- Components are named by words or not at all, and so are those in their types. -/
def HaveWordNames : List (Json × EvmType) → Prop
  | [] => True
  | (name, t) :: rest => (name.IsWordOrMissing ∧ t.HasWordNames) ∧ HaveWordNames rest

end

structure Parameter.HasWordNames (p : Parameter) : Prop where
  /-- The name of the parameter. -/
  name : p.name.IsWordOrMissing
  /-- The names in its type. -/
  type : p.type.HasWordNames

structure Method.HasWordNames (m : Method) : Prop where
  /-- The name of the method. -/
  name : m.name.IsWord
  /-- The names in its inputs. -/
  inputs : ∀ p ∈ m.inputs, p.HasWordNames
  /-- The names in its outputs. -/
  outputs : ∀ p ∈ m.outputs, p.HasWordNames

/-- All names that go into the document of a contract are words, those of parameters and components
apart that say nothing. -/
structure Contract.HasWordNames (c : Contract) : Prop where
  /-- The name of the contract. -/
  name : c.name.IsWord
  /-- The names in its constant functions. -/
  constantFunctions : ∀ m ∈ c.constantFunctions, m.HasWordNames
  /-- The names in its functions. -/
  functions : ∀ f ∈ c.functions, f.toMethod.HasWordNames
  /-- The names of its accessors. -/
  accessors : ∀ a ∈ c.accessors, a.name.IsWord ∧ a.output.type.HasWordNames
  /-- The names of its events. -/
  events : ∀ e ∈ c.events, e.name.IsWord

theorem Json.isWord_str {s : Text} (hne : s ≠ "") (h : s.toList.all isWord = true) :
    (Json.str s).IsWord :=
  ⟨s, rfl, hne, List.all_eq_true.mp h⟩

theorem isPlain_of_isWord {c : CodePoint} (h : isWord c = true) :
    isPlain c = true ∧ c ≠ space := by
  have hsigns : ([' ', '(', ')', '[', ']', '\x7b', '\x7d', '\n'].all fun s ↦ !isWord s) = true := by
    decide +kernel
  obtain ⟨hblank, hplain⟩ := List.forall_mem_cons.mp (ne_of_all_not hsigns h)
  exact ⟨isPlain_of_ne hplain, hblank⟩

theorem Json.IsWord.isInline {name : Json} (h : name.IsWord) : IsInline name.display := by
  obtain ⟨s, rfl, -, hs⟩ := h
  exact isInline_of_isPlain fun c hc ↦ (isPlain_of_isWord (hs c hc)).1

theorem Json.IsWord.startsRow {name : Json} (h : name.IsWord) : StartsRow name.display := by
  obtain ⟨s, rfl, hne, hs⟩ := h
  cases hlist : s.toList with
  | nil => exact absurd (toList_inj.mp hlist) hne
  | cons c rest =>
    obtain ⟨hplain, hblank⟩ := isPlain_of_isWord (hs c (by rw [hlist]; exact List.mem_cons_self))
    simp only [isPlain, Bool.and_eq_true, Option.isNone_iff_eq_none] at hplain
    exact ⟨c, rest, hlist, hblank, hplain.1.2⟩

theorem isWord_of_isDigit {c : Char} (h : c.isDigit = true) : isWord c = true := by
  simp only [Char.isDigit, Bool.and_eq_true, decide_eq_true_eq, UInt32.le_iff_toNat_le] at h
  refine (inRanges_iff wordRanges c.toNat).mpr ⟨(0x30, 0x39), List.mem_cons_self, ?_⟩
  exact h

theorem isInline_toString (n : Nat) : IsInline (toString n) := by
  refine isInline_of_isPlain fun p hp ↦ ?_
  rw [toList_ofString, Nat.toString_eq_repr, Nat.toList_repr] at hp
  obtain ⟨c, hc, rfl⟩ := List.mem_map.mp hp
  have hdigit : c.isDigit = true := Nat.isDigit_of_mem_toDigits (by decide) (by decide) hc
  exact (isPlain_of_isWord (isWord_of_isDigit hdigit)).1

theorem Json.IsWordOrMissing.isInline {name : Json} (h : name.IsWordOrMissing) (index : Nat) :
    IsInline (if name.truthy then name.display else "arg" ++ toString index) := by
  have harg : IsInline "arg" := ⟨by decide, by decide⟩
  by_cases htruthy : name.truthy = true
  · rw [if_pos htruthy]
    rcases h with hmissing | hword
    · rw [hmissing] at htruthy
      cases htruthy
    · exact hword.isInline
  · rw [if_neg htruthy]
    exact harg.append (isInline_toString index)

/-! ## Types -/

private theorem isInline_colon : IsInline ": " := ⟨by decide, by decide⟩

private theorem isInline_comma : IsInline ", " := ⟨by decide, by decide⟩

theorem isInline_arrayText {item : Text} (h : IsInline item) : IsInline (arrayText item) :=
  h.enclosed (b := .round) (by decide) (by decide) (by decide)

theorem isInline_recordText {fields : List Text} (h : ∀ field ∈ fields, IsInline field) :
    IsInline (recordText fields) := by
  rw [recordText]
  split
  · exact ⟨by decide, by decide⟩
  · have hjoined := isInline_intercalate isInline_comma h
    exact hjoined.enclosed (b := .curly) (by decide) (by decide) (by decide)

namespace EvmType

variable {d : Direction}

/-- The texts of the types without parts. -/
def leafTexts : List Text :=
  ["number | string", "string", "string | number[]", "boolean", "void"]

theorem mem_leafTexts {t : EvmType} {s : Text} (h : t.leaf? d = some s) :
    s ∈ leafTexts := by
  unfold leaf? at h
  split at h <;> simp_all [leafTexts]

private theorem isInline_of_leaf? {t : EvmType} {s : Text} (h : t.leaf? d = some s) :
    IsInline s := by
  have hall : ∀ s ∈ leafTexts, openAfter [] s.toList = some [] ∧ lineFeed ∉ s.toList := by decide
  obtain ⟨hnested, hline⟩ := hall s (mem_leafTexts h)
  exact ⟨hnested, hline⟩

private theorem isInline_of_leaf {t : EvmType} {s : Text}
    (h : (match t.leaf? d with
      | some s => .ok s
      | none => .error (.unrecognizedType t) : Except Fault Text) = .ok s) : IsInline s := by
  cases hleaf : t.leaf? d with
  | some text =>
    rw [hleaf] at h
    obtain rfl := Except.ok.inj h
    exact isInline_of_leaf? hleaf
  | none =>
    rw [hleaf] at h
    cases h

mutual

/-- **Types stay in their row.** -/
theorem isInline_of_render : ∀ {t : EvmType} {s : Text}, t.HasWordNames →
    t.render d = .ok s → IsInline s
  | .array item size, s, hnames, h => by
    rw [HasWordNames] at hnames
    rw [render] at h
    obtain ⟨text, htext, rfl⟩ := map_eq_ok_iff.mp h
    exact isInline_arrayText (isInline_of_render hnames htext)
  | .tuple components, s, hnames, h => by
    rw [HasWordNames] at hnames
    rw [render] at h
    obtain ⟨fields, hfields, rfl⟩ := map_eq_ok_iff.mp h
    exact isInline_recordText (isInline_of_renderFields hnames hfields)
  | .int _, _, _, h | .uint _, _, _, h | .address, _, _, h | .void, _, _, h | .bytes _, _, _, h
  | .bool, _, _, h | .string, _, _, h | .bare, _, _, h | .variation _ _, _, _, h
  | .value _, _, _, h => isInline_of_leaf h

theorem isInline_of_renderFields : ∀ {index : Nat} {components : List (Json × EvmType)}
    {fields : List Text}, HaveWordNames components →
    renderFields d index components = .ok fields → ∀ field ∈ fields, IsInline field
  | index, [], fields, hnames, h => by
    obtain rfl : [] = fields := Except.ok.inj h
    exact fun field hfield ↦ absurd hfield List.not_mem_nil
  | index, (name, t) :: rest, fields, hnames, h => by
    rw [HaveWordNames] at hnames
    obtain ⟨⟨hname, ht⟩, hrest⟩ := hnames
    rw [renderFields] at h
    obtain ⟨s, hs, h⟩ := bind_eq_ok_iff.mp h
    obtain ⟨others, hothers, h⟩ := bind_eq_ok_iff.mp h
    obtain rfl := Except.ok.inj h
    have hlabel := hname.isInline index
    rw [← fieldName_eq] at hlabel
    refine List.forall_mem_cons.mpr ⟨?_, isInline_of_renderFields hrest hothers⟩
    exact (hlabel.append isInline_colon).append (isInline_of_render ht hs)

end

theorem isInline_rendering {t : EvmType} (hnames : t.HasWordNames) (h : t.Renders d) :
    IsInline (t.rendering d) := isInline_of_render hnames h.render_eq

end EvmType

/-! ## Members -/

section Members

theorem isInline_parameterText {inputs : List Parameter} (hnames : ∀ p ∈ inputs, p.HasWordNames)
    (h : ∀ p ∈ inputs, p.type.Renders .input) : IsInline (parameterText inputs) := by
  refine isInline_intercalate isInline_comma fun field hfield ↦ ?_
  obtain ⟨⟨p, i⟩, hplace, rfl⟩ := List.mem_map.mp hfield
  have hp : p ∈ inputs := List.fst_mem_of_mem_zipIdx hplace
  have hlabel := (hnames p hp).name.isInline i
  exact (hlabel.append isInline_colon).append
    (EvmType.isInline_rendering (hnames p hp).type (h p hp))

theorem isInline_of_mem_resultFields {outputs : List Parameter}
    (hnames : ∀ p ∈ outputs, p.HasWordNames) (h : ∀ p ∈ outputs, p.type.Renders .output) :
    ∀ field ∈ resultFields outputs, IsInline field := by
  have htype : ∀ p ∈ outputs, IsInline (p.type.rendering .output) := fun p hp ↦
    EvmType.isInline_rendering (hnames p hp).type (h p hp)
  intro field hfield
  rw [resultFields, List.mem_append] at hfield
  rcases hfield with hnamed | hplaced
  · obtain ⟨p, hp, rfl⟩ := List.mem_map.mp hnamed
    obtain ⟨hp, htruthy⟩ := List.mem_filter.mp hp
    have hlabel := (hnames p hp).name.isInline 0
    rw [if_pos htruthy] at hlabel
    exact (hlabel.append isInline_colon).append (htype p hp)
  · obtain ⟨⟨p, i⟩, hplace, rfl⟩ := List.mem_map.mp hplaced
    have hp : p ∈ outputs := List.fst_mem_of_mem_zipIdx hplace
    exact ((isInline_toString i).append isInline_colon).append (htype p hp)

theorem isInline_resultText {outputs : List Parameter} (hnames : ∀ p ∈ outputs, p.HasWordNames)
    (h : ∀ p ∈ outputs, p.type.Renders .output) : IsInline (resultText outputs) := by
  match outputs, hnames, h with
  | [], _, _ => exact ⟨by decide, by decide⟩
  | [p], hnames, h =>
    have hp : p ∈ [p] := List.mem_cons_self
    exact EvmType.isInline_rendering (hnames p hp).type (h p hp)
  | p :: q :: rest, hnames, h =>
    have hfields := isInline_of_mem_resultFields hnames h
    have hjoined := isInline_intercalate isInline_comma hfields
    exact hjoined.enclosed (b := .curly) (by decide) (by decide) (by decide)

theorem isInline_methodText {m : Method} (hnames : m.HasWordNames) (h : m.Renders) :
    IsInline (methodText m) := by
  have hparameters : IsInline ("(" ++ parameterText m.inputs ++ "): TransactionObject<") :=
    (isInline_parameterText hnames.inputs h.inputs).enclosed (b := .round) (by decide) (by decide)
      (by decide)
  have hresult := isInline_resultText hnames.outputs h.outputs
  have hend : IsInline ">;" := ⟨by decide, by decide⟩
  have hrow := ((hnames.name.isInline.append hparameters).append hresult).append hend
  rw [methodText]
  simpa only [Text.append_assoc] using hrow

theorem isInline_accessorText {a : Accessor} (hname : a.name.IsWord)
    (hnames : a.output.type.HasWordNames) (h : a.output.type.Renders .output) :
    IsInline (accessorText a) := by
  have hcall : IsInline "(): TransactionObject<" := ⟨by decide, by decide⟩
  have hend : IsInline ">;" := ⟨by decide, by decide⟩
  exact ((hname.isInline.append hcall).append (EvmType.isInline_rendering hnames h)).append hend

theorem startsRow_methodText {m : Method} (hnames : m.HasWordNames) : StartsRow (methodText m) := by
  rw [methodText]
  simp only [Text.append_assoc]
  exact hnames.name.startsRow.append _

theorem startsRow_accessorText {a : Accessor} (hname : a.name.IsWord) :
    StartsRow (accessorText a) := by
  rw [accessorText]
  simp only [Text.append_assoc]
  exact hname.startsRow.append _

theorem rowsAfter?_subscriptionRows {opening closing : Text}
    (hopening : rowAfter? [.curly, .curly] ("    " ++ opening) = some [.round, .curly, .curly])
    (hclosing : rowAfter? [.round, .curly, .curly] ("    " ++ closing) = some [.curly, .curly]) :
    rowsAfter? [.curly, .curly] (subscriptionRows opening closing) = some [.curly, .curly] := by
  have hoptions : rowsAfter? [.round, .curly, .curly]
      ["      options?: \x7b", "        filter?: object;", "        fromBlock?: Block;",
        "        topics?: (null | string)[];", "      \x7d,", "      cb?: Callback<EventLog>"]
      = some [.round, .curly, .curly] := by decide +kernel
  have hlast : rowsAfter? [.round, .curly, .curly] ["    " ++ closing] = some [.curly, .curly] :=
    rowsAfter?_cons hclosing rfl
  exact rowsAfter?_cons hopening (rowsAfter?_append hoptions hlast)

end Members

/-! ## The document -/

section Document

variable {c : Contract}

theorem rowsAfter?_methodRows (hnames : c.HasWordNames) (h : c.Renders) :
    rowsAfter? [.curly, .curly] (methodRows c) = some [.curly, .curly] := by
  have hmethod : ∀ m : Method, m.HasWordNames → m.Renders →
      rowAfter? [.curly, .curly] ("    " ++ methodText m) = some [.curly, .curly] :=
    fun m hm hrenders ↦
      (isInline_methodText hm hrenders).rowAfter? (startsRow_methodText hm) (by decide)
  have hconstant := rowsAfter?_map fun m hm ↦
    hmethod m (hnames.constantFunctions m hm) (h.constantFunctions m hm)
  have hfunctions := rowsAfter?_map fun f hf ↦
    hmethod (Function.toMethod f) (hnames.functions f hf) (h.functions f hf)
  have haccessors : rowsAfter? [.curly, .curly] (c.accessors.map fun a ↦ "    " ++ accessorText a)
      = some [.curly, .curly] := by
    refine rowsAfter?_map fun a ha ↦ ?_
    obtain ⟨hname, htype⟩ := hnames.accessors a ha
    have hrow := isInline_accessorText hname htype (h.accessors a ha)
    exact hrow.rowAfter? (startsRow_accessorText hname) (by decide)
  exact rowsAfter?_append (rowsAfter?_append hconstant hfunctions) haccessors

theorem rowsAfter?_eventRows (hnames : c.HasWordNames) :
    rowsAfter? [.curly, .curly] (eventRows c) = some [.curly, .curly] := by
  have hall : rowsAfter? [.curly, .curly] (subscriptionRows "allEvents: (" ") => EventEmitter;")
      = some [.curly, .curly] := rowsAfter?_subscriptionRows (by decide) (by decide)
  refine rowsAfter?_append (rowsAfter?_flatMap fun e he ↦ ?_) hall
  refine rowsAfter?_subscriptionRows ?_ (by decide)
  have hname := hnames.events e he
  refine rowAfter?_blanks_append (by decide) (hname.startsRow.append _) ?_ ?_
  · rw [toList_append, List.mem_append]
    exact not_or.mpr ⟨hname.isInline.oneLine, by decide⟩
  · rw [toList_append, openAfter_append_of_eq (hname.isInline.openAfter_eq _)]
    rfl

theorem rowAfter?_classRow (hname : c.name.IsWord) :
    rowAfter? [] ("export class " ++ c.name.display ++ " extends Contract \x7b")
      = some [.curly] := by
  have hinline : IsInline ("export class " ++ c.name.display) :=
    IsInline.append ⟨by decide, by decide⟩ hname.isInline
  have hstart : StartsRow "export class " :=
    ⟨.char 'e', toList "xport class ", by decide, by decide, by decide⟩
  have hrow : rowAfter? [] ("" ++ ("export class " ++ c.name.display ++ " extends Contract \x7b"))
      = some [.curly] := by
    refine rowAfter?_blanks_append (by decide) ((hstart.append _).append _) ?_ ?_
    · rw [toList_append, List.mem_append]
      exact not_or.mpr ⟨hinline.oneLine, by decide⟩
    · rw [toList_append, openAfter_append_of_eq hinline.nested]
      rfl
  rwa [empty_append] at hrow

theorem rowAfter?_cloneRow (hname : c.name.IsWord) :
    rowAfter? [.curly] ("  clone(): " ++ c.name.display ++ ";") = some [.curly] := by
  have hclone : IsInline "clone(): " := ⟨by decide, by decide⟩
  have hend : IsInline ";" := ⟨by decide, by decide⟩
  have hstart : StartsRow "clone(): " :=
    ⟨.char 'c', toList "lone(): ", by decide, by decide, by decide⟩
  have hinline := (hclone.append hname.isInline).append hend
  have hsplit : "  clone(): " ++ c.name.display ++ ";"
      = "  " ++ ("clone(): " ++ c.name.display ++ ";") := by
    rw [← Text.append_assoc, ← Text.append_assoc]
    rfl
  rw [hsplit]
  exact hinline.rowAfter? ((hstart.append _).append _) (by decide)

/-- The brackets of the class and of its two blocks, around rows that keep them. -/
theorem rowsAfter?_classRows (hnames : c.HasWordNames) (h : c.Renders) :
    rowsAfter? [] (classRows c) = some [] := by
  have hopen : rowsAfter? [.curly]
      ["  constructor(jsonInterface: any[], address?: string, options?: ContractOptions);",
        "  methods: \x7b"] = some [.curly, .curly] := by decide +kernel
  have hbetween : rowsAfter? [.curly, .curly] ["  \x7d;", "  events: \x7b"]
      = some [.curly, .curly] := by decide
  have hmembers : rowAfter? [.curly, .curly] "  \x7d;" = some [.curly] := by decide
  have hclass : rowsAfter? [.curly] ["\x7d"] = some [] := by decide
  have hclose := rowsAfter?_cons hmembers (rowsAfter?_cons (rowAfter?_cloneRow hnames.name) hclass)
  have hmethods := rowsAfter?_append (rowsAfter?_cons (rowAfter?_classRow hnames.name) hopen)
    (rowsAfter?_methodRows hnames h)
  have hevents := rowsAfter?_append (rowsAfter?_append hmethods hbetween)
    (rowsAfter?_eventRows hnames)
  rw [classRows]
  exact rowsAfter?_append hevents hclose

theorem rowsAfter?_documentRows (hnames : c.HasWordNames) (h : c.Renders) :
    rowsAfter? [] (documentRows c) = some [] := by
  have hhead : rowsAfter? [] headRows = some [] := by decide +kernel
  have himports : rowsAfter? [] importRows = some [] := by decide +kernel
  have hpreamble : rowsAfter? [] preambleRows = some [] := by decide +kernel
  have hend : rowsAfter? [] [""] = some [] := by decide
  have hfixed := rowsAfter?_append (rowsAfter?_append hhead himports) hpreamble
  exact rowsAfter?_append (rowsAfter?_append hfixed (rowsAfter?_classRows hnames h)) hend

end Document

/-! ## Documents are well bracketed -/

/-- **Brackets and indentation.** Typings of a contract whose names are words are well bracketed. -/
theorem wellBracketed_typings (c : Contract) (text : Text) (h : typings c = .ok text)
    (hnames : c.HasWordNames) : WellBracketed text := by
  have hrenders : c.Renders := Contract.renders_of_typings h
  have htext : typings c = .ok (joinLines (documentRows c)) := by
    rw [typings, writes_documentText hrenders]
  obtain rfl : joinLines (documentRows c) = text := Except.ok.inj (htext.symm.trans h)
  exact wellBracketed_joinLines (by simp [documentRows]) (rowsAfter?_documentRows hnames hrenders)

/-- A contract with nested types and with parameters and components that have no names. -/
private def gallery : Contract where
  name := .str "Gallery"
  functions :=
    [⟨⟨.str "hang",
      [⟨.str "", .array (.tuple [(.str "by", .address), (.null, .tuple [])]) none⟩], []⟩, false⟩]
  constantFunctions :=
    [⟨.str "room_1", [⟨.null, .uint 8⟩], [⟨.str "size", .int 64⟩, ⟨.null, .bool⟩]⟩]
  accessors := [⟨.str "curator", ⟨.null, .array .string (some 2)⟩⟩]
  events := [⟨.str "Hung", [], false⟩]

private theorem hasWordNames_gallery : gallery.HasWordNames where
  name := Json.isWord_str (by decide) (by decide +kernel)
  constantFunctions := by
    have hroom : (Json.str "room_1").IsWord := Json.isWord_str (by decide) (by decide +kernel)
    have hsize : (Json.str "size").IsWord := Json.isWord_str (by decide) (by decide +kernel)
    simp only [gallery, List.forall_mem_singleton]
    refine ⟨hroom, ?_, ?_⟩
    · simp only [List.forall_mem_singleton]
      exact ⟨.inl rfl, trivial⟩
    · simp only [List.forall_mem_cons]
      exact ⟨⟨.inr hsize, trivial⟩, ⟨.inl rfl, trivial⟩, by simp⟩
  functions := by
    have hhang : (Json.str "hang").IsWord := Json.isWord_str (by decide) (by decide +kernel)
    have hby : (Json.str "by").IsWord := Json.isWord_str (by decide) (by decide +kernel)
    simp only [gallery, List.forall_mem_singleton]
    refine ⟨hhang, ?_, by simp⟩
    simp only [List.forall_mem_singleton]
    exact ⟨.inl rfl, ⟨.inr hby, trivial⟩, ⟨.inl rfl, trivial⟩, trivial⟩
  accessors := by
    simp only [gallery, List.forall_mem_singleton]
    exact ⟨Json.isWord_str (by decide) (by decide +kernel), trivial⟩
  events := by
    simp only [gallery, List.forall_mem_singleton]
    exact Json.isWord_str (by decide) (by decide +kernel)

theorem wellBracketed_typings_gallery : gallery.HasWordNames ∧
    ∃ text, typings gallery = .ok text ∧ WellBracketed text :=
  ⟨hasWordNames_gallery, _, rfl, wellBracketed_typings gallery _ rfl hasWordNames_gallery⟩

end AbiTypings
