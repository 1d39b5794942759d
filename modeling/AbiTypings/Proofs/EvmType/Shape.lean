import Mathlib.Logic.Function.Iterate
import AbiTypings.Proofs.EvmType.Grammar
import AbiTypings.Proofs.EvmType.Rendering

/-!
# What a rendering shows of a type

A rendering shows no widths and no sizes: every integer is a number or a text, and an array of three
items looks like an array of any number. So it shows nothing of the digits in a signature either.
Without its digits a signature is still a signature, of the same words and brackets
(`Spelling.text_bare`), and two signatures that differ in their digits have the same words and
brackets (`Signature.bare_eq_of_read`). Types over such signatures have equal renderings, once their
components do (`EvmType.rendering_eq_of_bare_eq`).
-/

namespace AbiTypings

/-! ## Signatures without digits -/

namespace Text

/-- A text without its decimal digits. -/
def withoutDigits (s : List CodePoint) : List CodePoint := s.filter fun c ↦ !isDecimalDigit c

theorem withoutDigits_append (s s' : List CodePoint) :
    withoutDigits (s ++ s') = withoutDigits s ++ withoutDigits s' :=
  List.filter_append s s'

theorem withoutDigits_of_decimal {s : List CodePoint} (h : ∀ c ∈ s, isDecimalDigit c = true) :
    withoutDigits s = [] := by
  rw [withoutDigits, List.filter_eq_nil_iff]
  intro c hc
  simp [h c hc]

theorem withoutDigits_of_blank {s : List CodePoint} (h : ∀ c ∈ s, isBlank c = true) :
    withoutDigits s = s := by
  rw [withoutDigits, List.filter_eq_self]
  intro c hc
  by_cases hdigit : isDecimalDigit c = true
  · have hink := isBlank_of_isDecimalDigit hdigit
    rw [h c hc] at hink
    cases hink
  · simpa using hdigit

end Text

namespace Signature

/-- A base without its width or size. -/
def Base.bare : Base → Base
  | uint _ => uint 256
  | int _ => int 256
  | bytes _ => bytes none
  | base => base

theorem Base.bare_eq_tuple_iff {base : Base} : base.bare = .tuple ↔ base = .tuple := by
  cases base <;> simp [bare]

/-- A signature without widths and sizes. -/
def bare (sig : Signature) : Signature := ⟨sig.base.bare, sig.dimensions.map fun _ ↦ none⟩

theorem isDecimalDigit_of_mem_nil : ∀ c ∈ ([] : List CodePoint), Text.isDecimalDigit c = true :=
  List.forall_mem_nil _

def Digits.none : Digits := ⟨[], isDecimalDigit_of_mem_nil, Nat.zero_le Text.digitLimit⟩

def BaseSpelling.bare : BaseSpelling → BaseSpelling
  | uint _ => uint .none
  | int _ => int .none
  | bytes _ => bytes .none
  | b => b

/-- A signature as it is written without digits. -/
def Spelling.bare (w : Spelling) : Spelling :=
  ⟨w.lead, w.base.bare, w.dimensions.map fun d ↦ ⟨d.blanks, .none⟩, w.trail⟩

theorem BaseSpelling.text_bare (b : BaseSpelling) : b.bare.text = Text.withoutDigits b.text := by
  have hwords : ∀ word ∈ words, Text.withoutDigits (Text.toList word) = Text.toList word := by
    decide
  have hbare : b.bare.word = b.word ∧ b.bare.digits = [] := by
    cases b <;> exact ⟨rfl, rfl⟩
  rw [text, text, Text.withoutDigits_append, hwords _ b.word_mem_words,
    Text.withoutDigits_of_decimal fun c ↦ isDecimalDigit_of_mem_digits, hbare.1, hbare.2]

theorem DimensionSpelling.text_bare (d : DimensionSpelling) :
    DimensionSpelling.text ⟨d.blanks, .none⟩ = Text.withoutDigits d.text := by
  have hopen : Text.withoutDigits [.char '['] = [.char '['] := by decide
  have hclose : Text.withoutDigits [.char ']'] = [.char ']'] := by decide
  have htext : d.text = d.blanks.chars ++ ([.char '['] ++ (d.size.chars ++ [.char ']'])) := rfl
  rw [htext, Text.withoutDigits_append, Text.withoutDigits_append, Text.withoutDigits_append,
    Text.withoutDigits_of_blank d.blanks.blank, Text.withoutDigits_of_decimal d.size.decimal,
    hopen, hclose]
  rfl

theorem Spelling.text_bare (w : Spelling) : w.bare.text = Text.withoutDigits w.text := by
  have hdimensions : w.bare.dimensions.flatMap DimensionSpelling.text
      = Text.withoutDigits (w.dimensions.flatMap DimensionSpelling.text) := by
    rw [bare, List.flatMap_map, Text.withoutDigits, List.filter_flatMap]
    exact congrArg (w.dimensions.flatMap ·) (funext DimensionSpelling.text_bare)
  rw [text, text, core, core, Text.withoutDigits_append, Text.withoutDigits_append,
    Text.withoutDigits_append, Text.withoutDigits_of_blank w.lead.blank,
    Text.withoutDigits_of_blank w.trail.blank, hdimensions, ← BaseSpelling.text_bare]
  rfl

theorem Spelling.bare_signature (w : Spelling) : w.bare.signature.bare = w.signature.bare := by
  have hbase : w.base.bare.base.bare = w.base.base.bare := by
    cases w.base <;> rfl
  simp [signature, Signature.bare, bare, hbase]

/-- **Digits do not matter.** Signatures that are read from texts with the same characters apart
from digits differ in widths and sizes only. -/
theorem bare_eq_of_read {s s' : List CodePoint} {sig sig' : Signature} (h : read s = .ok sig)
    (h' : read s' = .ok sig') (hdigits : Text.withoutDigits s = Text.withoutDigits s') :
    sig.bare = sig'.bare := by
  obtain ⟨w, rfl, rfl⟩ := read_eq_ok_iff.mp h
  obtain ⟨w', rfl, rfl⟩ := read_eq_ok_iff.mp h'
  have hread : read w.bare.text = .ok w.bare.signature := read_eq_ok_iff.mpr ⟨w.bare, rfl, rfl⟩
  have hread' : read w.bare.text = .ok w'.bare.signature := by
    rw [w.text_bare, hdigits, ← w'.text_bare]
    exact read_eq_ok_iff.mpr ⟨w'.bare, rfl, rfl⟩
  rw [← w.bare_signature, ← w'.bare_signature, Except.ok.inj (hread.symm.trans hread')]

end Signature

/-! ## Renderings -/

namespace EvmType

variable {d : Direction} {t : EvmType} {cs cs' : List (Json × EvmType)}

theorem rendering_wrap (h : t.Renders d) (dimensions : List (Option Nat)) :
    (t.wrap dimensions).rendering d = arrayText^[dimensions.length] (t.rendering d) := by
  induction dimensions generalizing t with
  | nil => rfl
  | cons size rest ih =>
    have hitem : (array t (size.map Int.ofNat)).render d = .ok (arrayText (t.rendering d)) := by
      rw [render, h.render_eq]
      rfl
    have harray : (array t (size.map Int.ofNat)).rendering d = arrayText (t.rendering d) := by
      rw [rendering, hitem]
      rfl
    have hrest := ih (t := array t (size.map Int.ofNat)) ⟨_, hitem⟩
    rw [List.length_cons, Function.iterate_succ_apply, ← harray, ← hrest]
    rfl

/-- What the rendering of a record shows of a component. -/
def face (d : Direction) (c : Json × EvmType) : Json × Text := (c.1, c.2.rendering d)

theorem rendering_tuple (h : ∀ c ∈ cs, c.2.Renders d) : (tuple cs).rendering d
    = recordText ((cs.map (face d)).zipIdx.map fun (c, i) ↦ fieldName c.1 i ++ ": " ++ c.2) := by
  rw [rendering, render, renderFields_eq h, List.zipIdx_map, List.map_map]
  rfl

theorem renders_ofBase (h : ∀ c ∈ cs, c.2.Renders d) (base : Signature.Base) :
    (ofBase cs base).Renders d := by
  cases base with
  | tuple =>
    rw [Renders, ofBase, render, renderFields_eq h]
    exact ⟨_, rfl⟩
  | _ => cases d <;> exact ⟨_, rfl⟩

/-- Only a tuple shows its components, and no base shows its width or size. -/
theorem rendering_ofBase_eq {base base' : Signature.Base} (hbase : base.bare = base'.bare)
    (hcs : base = .tuple → (tuple cs).rendering d = (tuple cs').rendering d) :
    (ofBase cs base).rendering d = (ofBase cs' base').rendering d := by
  cases base <;> cases base' <;> cases hbase <;> first | exact hcs rfl | rfl | (cases d <;> rfl)

/-- **Renderings show no digits.** -/
theorem rendering_eq_of_bare_eq {sig sig' : Signature} (hsig : sig.bare = sig'.bare)
    (h : ∀ c ∈ cs, c.2.Renders d) (h' : ∀ c ∈ cs', c.2.Renders d)
    (hcs : cs.map (face d) = cs'.map (face d)) :
    ((ofBase cs sig.base).wrap sig.dimensions).rendering d
      = ((ofBase cs' sig'.base).wrap sig'.dimensions).rendering d := by
  obtain ⟨hbase, hdimensions⟩ := Signature.mk.inj hsig
  have hlength : sig.dimensions.length = sig'.dimensions.length := by
    simpa using congrArg List.length hdimensions
  have htuple : (tuple cs).rendering d = (tuple cs').rendering d := by
    rw [rendering_tuple h, rendering_tuple h', hcs]
  rw [rendering_wrap (renders_ofBase h _), rendering_wrap (renders_ofBase h' _), hlength,
    rendering_ofBase_eq hbase fun _ ↦ htuple]

end EvmType

end AbiTypings
