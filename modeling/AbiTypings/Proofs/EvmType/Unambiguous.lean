import AbiTypings.Proofs.EvmType.Shape
import AbiTypings.Proofs.Typings.Nesting

/-!
# Renderings are unambiguous

What a rendering shows of a type is its *shape*: the type without widths and sizes, with one scalar
for all those that look alike in the direction, and with a name in every component. `EvmType.shape`
says so without rendering anything. Types with different shapes have different renderings, as long
as their components are named by words (`EvmType.render_eq_iff_shape_eq`).

## Two equal texts, read from left to right

The rendering of a part is followed by the rest of the rendering of the whole, so the induction is
on two types with two texts behind them, and it gives that the shapes are equal and that so are the
texts behind. Renderings of scalars are the only ones of which one can go on where another one ends:
`string` is the start of `string | number[]`. Nothing that can stand behind a type goes on that way,
and `EndsType` keeps track of it.

A name ends at the first character that is no part of a word, and an item or a record at a bracket,
so it is the first character that tells arrays, records and scalars apart.
-/

namespace AbiTypings

open Text
open CodePoint (char)

namespace EvmType

variable {d : Direction}

/-! ## Shapes -/

/-- The scalar that stands for all those that look like the given one. -/
def leafShape : Direction → EvmType → EvmType
  | .input, int _ => int 256
  | .input, uint _ => int 256
  | .input, bytes _ => bytes none
  | .input, address => string
  | .output, int _ => string
  | .output, uint _ => string
  | .output, bytes _ => string
  | .output, address => string
  | _, t => t

mutual

/-- A type without widths and sizes, with the same scalar for all that look alike, and with a name
in place of every name that says nothing. -/
def shape (d : Direction) : EvmType → EvmType
  | array item _ => array (shape d item) none
  | tuple components => tuple (shapeFields d 0 components)
  | t => leafShape d t

def shapeFields (d : Direction) (index : Nat) : List (Json × EvmType) → List (Json × EvmType)
  | [] => []
  | (name, t) :: rest => (fieldLabel name index, shape d t) :: shapeFields d (index + 1) rest

end

theorem fieldName_fieldLabel (name : Json) (index : Nat) :
    fieldName (fieldLabel name index) index = fieldName name index := by
  rw [fieldName, fieldName]
  by_cases h : name.truthy = true
  · rw [fieldLabel, fieldLabel, Json.orElse, Json.orElse, if_pos h, if_pos h]
  · have hlabel : fieldLabel name index = .str ("arg" ++ toString (index : Int)) := by
      rw [fieldLabel, Json.orElse, if_neg h]
    rw [hlabel, fieldLabel, Json.orElse]
    split <;> rfl

mutual

theorem render_shape : ∀ t : EvmType, (t.shape d).render d = t.render d
  | .array item size => by
    rw [shape, render, render, render_shape item]
  | .tuple components => by
    rw [shape, render, render, renderFields_shapeFields 0 components]
  | .int _ | .uint _ | .address | .void | .bytes _ | .bool | .string | .bare | .variation _ _
  | .value _ => by cases d <;> rfl

theorem renderFields_shapeFields : ∀ (index : Nat) (components : List (Json × EvmType)),
    renderFields d index (shapeFields d index components) = renderFields d index components
  | _, [] => rfl
  | index, (name, t) :: rest => by
    rw [shapeFields, renderFields, renderFields, render_shape t,
      renderFields_shapeFields (index + 1) rest, fieldName_fieldLabel]

end

/-! ## Names -/

theorem isWord_of_mem_fieldName {name : Json} (h : name.IsWordOrMissing) (index : Nat) :
    ∀ c ∈ (fieldName name index).toList, isWord c = true := by
  intro c hc
  rw [fieldName_eq] at hc
  by_cases htruthy : name.truthy = true
  · rw [if_pos htruthy] at hc
    rcases h with hmissing | ⟨s, rfl, -, hs⟩
    · exact absurd htruthy (by simp [hmissing])
    · exact hs c hc
  · rw [if_neg htruthy, toList_append, List.mem_append] at hc
    have harg : (toList "arg").all isWord = true := by decide +kernel
    rcases hc with hc | hc
    · exact List.all_eq_true.mp harg c hc
    · rw [toList_ofString, Nat.toString_eq_repr, Nat.toList_repr] at hc
      obtain ⟨digit, hdigit, rfl⟩ := List.mem_map.mp hc
      exact isWord_of_isDigit (Nat.isDigit_of_mem_toDigits (by decide) (by decide) hdigit)

theorem fieldLabel_eq_str {name : Json} (h : name.IsWordOrMissing) (index : Nat) :
    fieldLabel name index = .str (fieldName name index) := by
  rw [fieldName, fieldLabel, Json.orElse]
  by_cases htruthy : name.truthy = true
  · rw [if_pos htruthy]
    rcases h with hmissing | ⟨s, rfl, -, -⟩
    · exact absurd htruthy (by simp [hmissing])
    · rfl
  · rw [if_neg htruthy]
    rfl

/-- A word in front of a character that is part of no word can be told from what follows. -/
theorem append_inj_of_isWord {w w' : List CodePoint} {x : CodePoint} {r r' : List CodePoint}
    (hw : ∀ c ∈ w, isWord c = true) (hw' : ∀ c ∈ w', isWord c = true) (hx : isWord x = false)
    (h : w ++ x :: r = w' ++ x :: r') : w = w' ∧ r = r' := by
  have hstop : ¬isWord x = true := by simp [hx]
  have hfirst : ∀ {v s : List CodePoint}, (∀ c ∈ v, isWord c = true) →
      (v ++ x :: s).takeWhile isWord = v := by
    intro v s hv
    rw [List.takeWhile_append_of_pos hv, List.takeWhile_cons_of_neg hstop, List.append_nil]
  have hword : w = w' := by
    rw [← hfirst (s := r) hw, h, hfirst hw']
  rw [hword] at h
  exact ⟨hword, (List.cons.inj (List.append_cancel_left h)).2⟩

/-! ## The ends of renderings -/

/-- What can stand behind a type: it does not go on with another member of a union. -/
def EndsType (rest : List CodePoint) : Prop := ¬[space, char '|'] <+: rest

theorem endsType_nil : EndsType [] := by
  intro h
  simpa using h.length_le

theorem endsType_cons {c : CodePoint} (hc : c ≠ space) (rest : List CodePoint) :
    EndsType (c :: rest) := by
  intro h
  exact hc (List.cons_prefix_cons.mp h).1.symm

/-- What stands in a record behind its first fields, together with what follows the record. -/
def recordEnd (rest : List CodePoint) : List Text → List CodePoint
  | [] => space :: char '\x7d' :: rest
  | field :: fields => char ',' :: space :: (field.toList ++ recordEnd rest fields)

theorem endsType_recordEnd (rest : List CodePoint) (fields : List Text) :
    EndsType (recordEnd rest fields) := by
  cases fields with
  | nil =>
    intro h
    have hbar := (List.cons_prefix_cons.mp (List.cons_prefix_cons.mp h).2).1
    exact absurd hbar (by decide)
  | cons field fields => exact endsType_cons (by decide) _

theorem toList_recordText_append (field : Text) (fields : List Text) (rest : List CodePoint) :
    (recordText (field :: fields)).toList ++ rest
      = char '\x7b' :: space :: (field.toList ++ recordEnd rest fields) := by
  have hjoined :
      (Text.intercalate ", " (field :: fields)).toList ++ space :: char '\x7d' :: rest
        = field.toList ++ recordEnd rest fields := by
    induction fields generalizing field with
    | nil => rw [intercalate_singleton, recordEnd]
    | cons next fields ih =>
      rw [intercalate_cons_of_ne_nil (List.cons_ne_nil next fields), toList_append,
        toList_append, List.append_assoc, ih, recordEnd, List.append_assoc]
      rfl
  rw [← hjoined, recordText]
  simp [toList_append, toList_ofString]

/-! ## Scalars -/

/-- The scalar of a shape that has the given text. -/
def scalarOf (text : Text) : EvmType :=
  if text = "number | string" then int 256
  else if text = "string | number[]" then bytes none
  else if text = "boolean" then bool
  else if text = "void" then void
  else string

theorem shape_of_leaf? {t : EvmType} {s : Text} (h : t.leaf? d = some s) :
    t.shape d = scalarOf s := by
  cases d <;> cases t <;> cases h <;> rfl

/-- If the text of a scalar goes on where that of another one ends, it goes on with a union. -/
theorem leafTexts_prefix : ∀ s ∈ leafTexts, ∀ s' ∈ leafTexts, s.toList <+: s'.toList →
    s = s' ∨ [space, char '|'] <+: s'.toList.drop s.toList.length := by
  decide

theorem leafTexts_eq_of_append {s s' : Text} {r middle : List CodePoint} (hs : s ∈ leafTexts)
    (hs' : s' ∈ leafTexts) (hr : EndsType (middle ++ r)) (h : s'.toList = s.toList ++ middle) :
    s = s' := by
  rcases leafTexts_prefix s hs s' hs' ⟨middle, h.symm⟩ with hsame | hunion
  · exact hsame
  · rw [h, List.drop_left] at hunion
    exact absurd (hunion.trans (List.prefix_append middle r)) hr

theorem leafTexts_inj {s s' : Text} {r r' : List CodePoint} (hs : s ∈ leafTexts)
    (hs' : s' ∈ leafTexts) (hr : EndsType r) (hr' : EndsType r')
    (h : s.toList ++ r = s'.toList ++ r') : s = s' ∧ r = r' := by
  have hsame : s = s' := by
    rcases List.append_eq_append_iff.mp h with ⟨middle, heq, rfl⟩ | ⟨middle, heq, rfl⟩
    · exact leafTexts_eq_of_append hs hs' hr heq
    · exact (leafTexts_eq_of_append hs' hs hr' heq).symm
  rw [hsame] at h
  exact ⟨hsame, List.append_cancel_left h⟩

/-! ## Reading back -/

/-- What a rendering is, by the kind of the type. -/
inductive IsRendering (d : Direction) : EvmType → Text → Prop where
  /-- A scalar has a text of its own. -/
  | leaf {t : EvmType} {s : Text} (text : t.leaf? d = some s) : IsRendering d t s
  /-- An array shows its item. -/
  | array {item : EvmType} {size : Option Int} {s : Text} (text : item.render d = .ok s) :
    IsRendering d (array item size) (arrayText s)
  /-- A tuple shows its components. -/
  | tuple {components : List (Json × EvmType)} {fields : List Text}
    (texts : renderFields d 0 components = .ok fields) :
    IsRendering d (tuple components) (recordText fields)

theorem isRendering_of_render {t : EvmType} {s : Text} (h : t.render d = .ok s) :
    IsRendering d t s := by
  cases t with
  | array item size =>
    rw [render] at h
    obtain ⟨text, htext, rfl⟩ := map_eq_ok_iff.mp h
    exact .array htext
  | tuple components =>
    rw [render] at h
    obtain ⟨fields, hfields, rfl⟩ := map_eq_ok_iff.mp h
    exact .tuple hfields
  | _ => cases d <;> cases h <;> exact .leaf rfl

theorem leafTexts_head : ∀ s ∈ leafTexts, ∃ c ∈ s.toList.head?, c ≠ char '(' ∧ c ≠ char '\x7b' := by
  simp [leafTexts, toList_ofString]

theorem head?_arrayText (s : Text) : char '(' ∈ (arrayText s).toList.head? := by
  simp [arrayText, toList_append, toList_ofString]

theorem head?_recordText (fields : List Text) : char '\x7b' ∈ (recordText fields).toList.head? := by
  rw [recordText]
  split <;> simp [toList_append, toList_ofString]

theorem head_eq_of_append_eq {s s' r r' : List CodePoint} {c c' : CodePoint} (hs : c ∈ s.head?)
    (hs' : c' ∈ s'.head?) (h : s ++ r = s' ++ r') : c = c' := by
  obtain ⟨tail, rfl⟩ := List.head?_eq_some_iff.mp hs
  obtain ⟨tail', rfl⟩ := List.head?_eq_some_iff.mp hs'
  exact (List.cons.inj h).1

theorem shape_eq_of_leaf {t t' : EvmType} {s s' : Text} {r r' : List CodePoint}
    (h : t.leaf? d = some s) (h' : IsRendering d t' s') (hr : EndsType r) (hr' : EndsType r')
    (heq : s.toList ++ r = s'.toList ++ r') : t.shape d = t'.shape d ∧ r = r' := by
  obtain ⟨c, hc, hround, hcurly⟩ := leafTexts_head s (mem_leafTexts h)
  cases h' with
  | leaf text =>
    obtain ⟨rfl, hrest⟩ := leafTexts_inj (mem_leafTexts h) (mem_leafTexts text) hr hr' heq
    rw [shape_of_leaf? h, shape_of_leaf? text]
    exact ⟨rfl, hrest⟩
  | array text => exact absurd (head_eq_of_append_eq hc (head?_arrayText _) heq) hround
  | tuple texts => exact absurd (head_eq_of_append_eq hc (head?_recordText _) heq) hcurly

theorem toList_arrayText_append (s : Text) (rest : List CodePoint) :
    (arrayText s).toList ++ rest
      = char '(' :: (s.toList ++ char ')' :: char '[' :: char ']' :: rest) := by
  simp [arrayText, toList_append, toList_ofString]

theorem recordEnd_eq_of_append {fields fields' : List Text} {r r' : List CodePoint}
    (h : (recordText fields).toList ++ r = (recordText fields').toList ++ r') :
    recordEnd r fields = recordEnd r' fields' := by
  have hempty : ∀ rest, (recordText []).toList ++ rest = char '\x7b' :: char '\x7d' :: rest := by
    intro rest
    simp [recordText, toList_ofString]
  cases fields with
  | nil =>
    cases fields' with
    | nil => simpa [hempty, recordEnd] using h
    | cons field' others' => simp [hempty, toList_recordText_append] at h
  | cons field others =>
    cases fields' with
    | nil => simp [hempty, toList_recordText_append] at h
    | cons field' others' => simpa [toList_recordText_append, recordEnd] using h

mutual

/-- **Reading back.** A rendering tells the shape of the type and where it ends. -/
theorem shape_eq_of_append : ∀ {t t' : EvmType} {s s' : Text} {r r' : List CodePoint},
    t.HasWordNames → t'.HasWordNames → t.render d = .ok s → t'.render d = .ok s' →
    EndsType r → EndsType r' → s.toList ++ r = s'.toList ++ r' →
    t.shape d = t'.shape d ∧ r = r'
  | .array item size, t', s, s', r, r', hnames, hnames', h, h', hr, hr', heq => by
    rw [render] at h
    obtain ⟨text, htext, rfl⟩ := map_eq_ok_iff.mp h
    rw [HasWordNames] at hnames
    cases isRendering_of_render h' with
    | leaf hleaf =>
      obtain ⟨hshape, hrest⟩ := shape_eq_of_leaf hleaf (.array htext) hr' hr heq.symm
      exact ⟨hshape.symm, hrest.symm⟩
    | array htext' =>
      rw [HasWordNames] at hnames'
      rw [toList_arrayText_append, toList_arrayText_append] at heq
      have hends : ∀ rest, EndsType (char ')' :: char '[' :: char ']' :: rest) :=
        fun rest ↦ endsType_cons (by decide) _
      obtain ⟨hitem, hrest⟩ := shape_eq_of_append hnames hnames' htext htext' (hends r) (hends r')
        (List.cons.inj heq).2
      rw [shape, shape, hitem]
      exact ⟨rfl, by simpa using hrest⟩
    | tuple _ =>
      have hhead := head_eq_of_append_eq (head?_arrayText _) (head?_recordText _) heq
      exact absurd hhead (by decide)
  | .tuple components, t', s, s', r, r', hnames, hnames', h, h', hr, hr', heq => by
    rw [render] at h
    obtain ⟨fields, hfields, rfl⟩ := map_eq_ok_iff.mp h
    rw [HasWordNames] at hnames
    cases isRendering_of_render h' with
    | leaf hleaf =>
      obtain ⟨hshape, hrest⟩ := shape_eq_of_leaf hleaf (.tuple hfields) hr' hr heq.symm
      exact ⟨hshape.symm, hrest.symm⟩
    | array _ =>
      have hhead := head_eq_of_append_eq (head?_recordText _) (head?_arrayText _) heq
      exact absurd hhead (by decide)
    | tuple hfields' =>
      rw [HasWordNames] at hnames'
      obtain ⟨hshapes, hrest⟩ := shapeFields_eq_of_append hnames hnames' hfields hfields'
        (recordEnd_eq_of_append heq)
      rw [shape, shape, hshapes]
      exact ⟨rfl, hrest⟩
  | .int _, _, _, _, _, _, _, _, h, h', hr, hr', heq
  | .uint _, _, _, _, _, _, _, _, h, h', hr, hr', heq
  | .address, _, _, _, _, _, _, _, h, h', hr, hr', heq
  | .void, _, _, _, _, _, _, _, h, h', hr, hr', heq
  | .bytes _, _, _, _, _, _, _, _, h, h', hr, hr', heq
  | .bool, _, _, _, _, _, _, _, h, h', hr, hr', heq
  | .string, _, _, _, _, _, _, _, h, h', hr, hr', heq
  | .bare, _, _, _, _, _, _, _, h, h', hr, hr', heq
  | .variation _ _, _, _, _, _, _, _, _, h, h', hr, hr', heq
  | .value _, _, _, _, _, _, _, _, h, h', hr, hr', heq => by
    cases isRendering_of_render h with
    | leaf hleaf => exact shape_eq_of_leaf hleaf (isRendering_of_render h') hr hr' heq

theorem shapeFields_eq_of_append : ∀ {index : Nat} {components components' : List (Json × EvmType)}
    {fields fields' : List Text} {r r' : List CodePoint},
    HaveWordNames components → HaveWordNames components' →
    renderFields d index components = .ok fields →
    renderFields d index components' = .ok fields' →
    recordEnd r fields = recordEnd r' fields' →
    shapeFields d index components = shapeFields d index components' ∧ r = r'
  | index, [], [], fields, fields', r, r', _, _, h, h', heq => by
    obtain rfl : [] = fields := Except.ok.inj h
    obtain rfl : [] = fields' := Except.ok.inj h'
    exact ⟨rfl, by simpa [recordEnd] using heq⟩
  | index, [], (_, _) :: _, fields, fields', r, r', _, _, h, h', heq => by
    obtain rfl : [] = fields := Except.ok.inj h
    obtain ⟨_, _, _, _, rfl⟩ := renderFields_cons_eq_ok_iff.mp h'
    simp [recordEnd] at heq
  | index, (_, _) :: _, [], fields, fields', r, r', _, _, h, h', heq => by
    obtain rfl : [] = fields' := Except.ok.inj h'
    obtain ⟨_, _, _, _, rfl⟩ := renderFields_cons_eq_ok_iff.mp h
    simp [recordEnd] at heq
  | index, (name, t) :: rest, (name', t') :: rest', fields, fields', r, r', hnames, hnames', h, h',
      heq => by
    rw [HaveWordNames] at hnames hnames'
    obtain ⟨⟨hname, ht⟩, hrest⟩ := hnames
    obtain ⟨⟨hname', ht'⟩, hrest'⟩ := hnames'
    obtain ⟨s, others, hs, hothers, rfl⟩ := renderFields_cons_eq_ok_iff.mp h
    obtain ⟨s', others', hs', hothers', rfl⟩ := renderFields_cons_eq_ok_iff.mp h'
    have hfield : (fieldName name index).toList ++
          char ':' :: space :: (s.toList ++ recordEnd r others)
        = (fieldName name' index).toList ++
          char ':' :: space :: (s'.toList ++ recordEnd r' others') := by
      simpa [recordEnd, toList_append, toList_ofString] using heq
    have hcolon : isWord (char ':') = false := by decide +kernel
    obtain ⟨hlabel, htail⟩ := append_inj_of_isWord (isWord_of_mem_fieldName hname index)
      (isWord_of_mem_fieldName hname' index) hcolon hfield
    obtain ⟨hshape, hend⟩ := shape_eq_of_append ht ht' hs hs' (endsType_recordEnd r others)
      (endsType_recordEnd r' others') (List.cons.inj htail).2
    obtain ⟨hshapes, hbehind⟩ := shapeFields_eq_of_append hrest hrest' hothers hothers' hend
    have hnames : fieldLabel name index = fieldLabel name' index := by
      rw [fieldLabel_eq_str hname, fieldLabel_eq_str hname', toList_inj.mp hlabel]
    rw [shapeFields, shapeFields, hnames, hshape, hshapes]
    exact ⟨rfl, hbehind⟩

end

theorem rendering_eq_iff {t t' : EvmType} (hnames : t.HasWordNames) (hnames' : t'.HasWordNames)
    {s s' : Text} (h : t.render d = .ok s) (h' : t'.render d = .ok s') :
    s = s' ↔ t.shape d = t'.shape d := by
  constructor
  · rintro rfl
    exact (shape_eq_of_append hnames hnames' h h' endsType_nil endsType_nil rfl).1
  · intro hshape
    have hrender : t.render d = t'.render d := by
      rw [← render_shape t, hshape, render_shape]
    rw [h, h'] at hrender
    exact Except.ok.inj hrender

theorem shape_eq_array_iff {t item : EvmType} : t.shape d = array item none ↔
    ∃ part size, t = array part size ∧ part.shape d = item := by
  constructor
  · intro h
    cases t with
    | array part size => exact ⟨part, size, rfl, by simpa [shape] using h⟩
    | tuple components => simp [shape] at h
    | _ => cases d <;> cases h
  · rintro ⟨part, size, rfl, rfl⟩
    rw [shape]

/-- **Renderings are unambiguous.** Types whose components are named by words have the same
rendering exactly if they have the same shape. In particular, what is rendered as an array over the
text of a type is an array of items of its shape, and since that text closes its brackets, the
suffix of an array stands behind the whole item. -/
theorem render_eq_iff_shape_eq {t t' : EvmType} (h : t.Supported d) (h' : t'.Supported d)
    (hnames : t.HasWordNames) (hnames' : t'.HasWordNames) :
    ∃ s s', t.render d = .ok s ∧ t'.render d = .ok s' ∧ (s = s' ↔ t.shape d = t'.shape d) ∧
      openAfter [] s.toList = some [] ∧
      (s' = "(" ++ s ++ ")[]" ↔
        ∃ item size, t' = array item size ∧ item.shape d = t.shape d) := by
  have hs := h.renders.render_eq
  have hs' := h'.renders.render_eq
  have harray : (array t none).render d = .ok (arrayText (t.rendering d)) := by
    rw [render, hs]
    rfl
  have hitem : (array t none).HasWordNames := by
    rwa [HasWordNames]
  refine ⟨_, _, hs, hs', rendering_eq_iff hnames hnames' hs hs',
    (isInline_of_render hnames hs).nested, ?_⟩
  rw [← shape_eq_array_iff, ← arrayText, rendering_eq_iff hnames' hitem hs' harray, shape]

/-- A record of an amount in two parts and of an account. -/
private def transfer : EvmType :=
  tuple [(.str "", array (uint 128) (some 2)), (.str "to", address)]

/-- A record of integers and a text. -/
private def entry : EvmType :=
  tuple [(.str "arg0", array (int 64) none), (.str "to", string)]

/-- Arguments of the two types look alike, and so do their results. -/
theorem render_eq_iff_shape_eq_transfer : transfer.HasWordNames ∧ entry.HasWordNames ∧
    ∀ d, transfer.Supported d ∧ entry.Supported d ∧
      ∃ s, transfer.render d = .ok s ∧ entry.render d = .ok s ∧
        openAfter [] s.toList = some [] := by
  have hto : (Json.str "to").IsWord := Json.isWord_str (by decide) (by decide +kernel)
  have harg : (Json.str "arg0").IsWord := Json.isWord_str (by decide) (by decide +kernel)
  have hnames : transfer.HasWordNames := ⟨⟨.inl rfl, trivial⟩, ⟨.inr hto, trivial⟩, trivial⟩
  have hnames' : entry.HasWordNames := ⟨⟨.inr harg, trivial⟩, ⟨.inr hto, trivial⟩, trivial⟩
  refine ⟨hnames, hnames', fun d ↦ ?_⟩
  have h : transfer.Supported d := ⟨trivial, trivial, trivial⟩
  have h' : entry.Supported d := ⟨trivial, trivial, trivial⟩
  obtain ⟨s, s', hs, hs', hiff, hnested, -⟩ := render_eq_iff_shape_eq h h' hnames hnames'
  have hshape : transfer.shape d = entry.shape d := by
    cases d <;> rfl
  rw [← hiff.mpr hshape] at hs'
  exact ⟨h, h', s, hs, hs', hnested⟩

end EvmType

end AbiTypings
