import Mathlib.Data.List.Induction
import Mathlib.Data.List.TakeWhile
import AbiTypings.EvmType.Reading
import AbiTypings.Proofs.Fault.Containment
import AbiTypings.Proofs.Fault.Success

/-!
# The grammar of type signatures

A signature is read from its end: the last pair of brackets is taken off, what is left is stripped,
and so on until a base remains. It is written from its start: a base, then a pair of brackets for
each dimension, with blanks in front of the base, in front of each pair and at the end.
`Signature.Spelling` is that way of writing it, as a tree that has a text and means a type, and it
knows nothing about reading.

The two meet in `Signature.read_eq_ok_iff`: a text is read exactly if it is the text of a spelling,
and then it is read as what the spelling means. Both directions go by the dimensions from the last
one to the first. The blanks in front of the last pair of brackets are the blanks at the end of what
is left when the pair is taken off, so a spelling without its last dimension is again a spelling.
-/

namespace AbiTypings

/-! ## Blanks at the ends of a text -/

namespace Text

theorem isBlank_of_isDecimalDigit {c : CodePoint} (h : isDecimalDigit c = true) :
    isBlank c = false := by
  have hapart : ∀ z ∈ zeroDigits, ∀ r ∈ blankRanges, z + 9 < r.1 ∨ r.2 < z := by decide
  obtain ⟨d, hd⟩ := Option.isSome_iff_exists.mp h
  rw [decimalDigit?, Option.map_eq_some_iff] at hd
  obtain ⟨z, hz, -⟩ := hd
  have hdigit := List.find?_some hz
  simp only [Bool.and_eq_true, decide_eq_true_eq] at hdigit
  rw [Bool.eq_false_iff]
  intro hblank
  rw [isBlank, inRanges_iff] at hblank
  obtain ⟨r, hr, hlow, hhigh⟩ := hblank
  have := hapart z (List.mem_of_find?_eq_some hz) r hr
  omega

theorem strip_eq_self {s : List CodePoint} {first last : CodePoint} {rest front : List CodePoint}
    (hfirst : s = first :: rest) (hlast : s = front ++ [last]) (hfirstInk : isBlank first = false)
    (hlastInk : isBlank last = false) : strip s = s := by
  have hstart : s.dropWhile isBlank = s := by
    rw [hfirst, List.dropWhile_cons_of_neg (by simp [hfirstInk])]
  have hend : s.reverse.dropWhile isBlank = s.reverse := by
    rw [hlast, List.reverse_append, List.reverse_singleton, List.singleton_append,
      List.dropWhile_cons_of_neg (by simp [hlastInk])]
  rw [strip, hstart, hend, List.reverse_reverse]

theorem strip_between {before after : List CodePoint} (hbefore : ∀ c ∈ before, isBlank c = true)
    (hafter : ∀ c ∈ after, isBlank c = true) (s : List CodePoint) :
    strip (before ++ (s ++ after)) = strip s := by
  rw [strip, strip, List.dropWhile_append_of_pos hbefore, List.dropWhile_append]
  split
  · next hblank =>
    rw [List.isEmpty_iff.mp hblank, List.dropWhile_eq_nil_iff.mpr hafter]
  · rw [List.reverse_append, List.dropWhile_append_of_pos (by simpa using hafter)]

theorem exists_eq_append_strip (s : List CodePoint) : ∃ before after,
    (∀ c ∈ before, isBlank c = true) ∧ (∀ c ∈ after, isBlank c = true) ∧
      s = before ++ (strip s ++ after) := by
  refine ⟨s.takeWhile isBlank, ((s.dropWhile isBlank).reverse.takeWhile isBlank).reverse,
    ?_, ?_, ?_⟩
  · intro c hc
    exact List.mem_takeWhile_imp hc
  · intro c hc
    exact List.mem_takeWhile_imp (List.mem_reverse.mp hc)
  · rw [strip, ← List.reverse_append, List.takeWhile_append_dropWhile, List.reverse_reverse,
      List.takeWhile_append_dropWhile]

theorem readNumeral_eq_ok_iff {s : List CodePoint} {n : Nat} :
    readNumeral s = .ok n ↔ s ≠ [] ∧ s.length ≤ digitLimit ∧
      (∀ c ∈ s, isDecimalDigit c = true) ∧ numeralValue s = n := by
  have hdecimal : (∀ c ∈ s, isDecimalDigit c = true) ↔
      s.length ≤ (s.takeWhile isDecimalDigit).length := by
    rw [← List.takeWhile_eq_self_iff]
    constructor
    · intro h
      rw [h]
    · intro h
      exact (List.takeWhile_prefix _).eq_of_length_le h
  have hle := (List.takeWhile_prefix isDecimalDigit (l := s)).length_le
  rw [hdecimal, readNumeral]
  split
  · constructor
    · intro h
      cases h
    · rintro ⟨-, hshort, hall, -⟩
      omega
  · split
    · next hlong hmalformed =>
      constructor
      · intro h
        cases h
      · rintro ⟨hne, -, hall, -⟩
        simp only [Bool.or_eq_true, List.isEmpty_iff, decide_eq_true_eq] at hmalformed
        exact absurd hall (Nat.not_le.mpr (hmalformed.resolve_left hne))
    · next hshort hwhole =>
      simp only [Bool.or_eq_true, List.isEmpty_iff, decide_eq_true_eq, not_or, Nat.not_lt]
        at hwhole hshort
      constructor
      · intro h
        exact ⟨hwhole.1, Nat.le_trans hwhole.2 hshort, hwhole.2, Except.ok.inj h⟩
      · rintro ⟨-, -, -, rfl⟩
        rfl

end Text

/-! ## Spellings -/

namespace Signature

/-- Blanks, or nothing. -/
structure Blanks where
  /-- The characters. -/
  chars : List CodePoint
  /-- All of them are blank. -/
  blank : ∀ c ∈ chars, Text.isBlank c = true

/-- Decimal digits of any script, no more than a numeral may have, or nothing. -/
structure Digits where
  /-- The characters. -/
  chars : List CodePoint
  /-- All of them are decimal digits. -/
  decimal : ∀ c ∈ chars, Text.isDecimalDigit c = true
  /-- There are not too many. -/
  short : chars.length ≤ Text.digitLimit

/-- The number that the digits write, if there are any. -/
def Digits.value? (d : Digits) : Option Nat :=
  if d.chars.isEmpty then none else some (Text.numeralValue d.chars)

/-- A base as it is written. -/
inductive BaseSpelling where
  /-- The word `bool`. -/
  | bool
  /-- The word `address`. -/
  | address
  /-- The word `string`. -/
  | string
  /-- The word `byte`. -/
  | byte
  /-- The word `tuple`. -/
  | tuple
  /-- The word `uint` with a width. -/
  | uint (width : Digits)
  /-- The word `int` with a width. -/
  | int (width : Digits)
  /-- The word `bytes` with a size. -/
  | bytes (size : Digits)

namespace BaseSpelling

def word : BaseSpelling → String
  | bool => "bool"
  | address => "address"
  | string => "string"
  | byte => "byte"
  | tuple => "tuple"
  | uint _ => "uint"
  | int _ => "int"
  | bytes _ => "bytes"

def digits : BaseSpelling → List CodePoint
  | uint width => width.chars
  | int width => width.chars
  | bytes size => size.chars
  | _ => []

def text (b : BaseSpelling) : List CodePoint := Text.toList b.word ++ b.digits

/-- The base that is meant. -/
def base : BaseSpelling → Base
  | bool => .bool
  | address => .address
  | string => .string
  | byte => .bytes (some 1)
  | tuple => .tuple
  | uint width => .uint (width.value?.getD 256)
  | int width => .int (width.value?.getD 256)
  | bytes size => .bytes size.value?

/-- The type that is meant; the components are those of a tuple. -/
def type (b : BaseSpelling) (components : List (Json × EvmType)) : EvmType :=
  match b with
  | bool => .bool
  | address => .address
  | string => .string
  | byte => .bytes (some 1)
  | tuple => .tuple components
  | uint width => .uint (width.value?.getD 256)
  | int width => .int (width.value?.getD 256)
  | bytes size => .bytes (size.value?.map Int.ofNat)

end BaseSpelling

/-- A pair of brackets as it is written, with the blanks in front of it. -/
structure DimensionSpelling where
  /-- The blanks in front of the brackets. -/
  blanks : Blanks
  /-- The digits between the brackets. -/
  size : Digits

def DimensionSpelling.text (d : DimensionSpelling) : List CodePoint :=
  d.blanks.chars ++ .char '[' :: (d.size.chars ++ [.char ']'])

/-- A signature as it is written. -/
structure Spelling where
  /-- The blanks in front of the base. -/
  lead : Blanks
  /-- The base. -/
  base : BaseSpelling
  /-- The pairs of brackets in the order of writing. -/
  dimensions : List DimensionSpelling
  /-- The blanks at the end. -/
  trail : Blanks

namespace Spelling

/-- The text of a signature without the blanks at its two ends. -/
def core (w : Spelling) : List CodePoint :=
  w.base.text ++ w.dimensions.flatMap DimensionSpelling.text

def text (w : Spelling) : List CodePoint := w.lead.chars ++ (w.core ++ w.trail.chars)

/-- The signature that is meant. -/
def signature (w : Spelling) : Signature :=
  ⟨w.base.base, w.dimensions.map fun d ↦ d.size.value?⟩

/-- The type that is meant: one array for each pair of brackets, the first one innermost. The
components are those of a tuple. -/
def type (w : Spelling) (components : List (Json × EvmType)) : EvmType :=
  w.dimensions.foldl (fun item d ↦ .array item (d.size.value?.map Int.ofNat))
    (w.base.type components)

end Spelling

/-- A base alone as a signature. -/
def BaseSpelling.alone (b : BaseSpelling) : Spelling :=
  ⟨⟨[], List.forall_mem_nil _⟩, b, [], ⟨[], List.forall_mem_nil _⟩⟩

theorem BaseSpelling.text_alone (b : BaseSpelling) : b.alone.text = b.text := by
  simp [alone, Spelling.text, Spelling.core]

/-- A text follows the grammar of signatures. -/
def IsSpelled (s : List CodePoint) : Prop := ∃ w : Spelling, w.text = s

/-! ## Digits -/

theorem readWidth_eq_ok_iff {s : List CodePoint} {n : Nat} :
    readWidth s = .ok n ↔ s ≠ [] ∧ ∃ d : Digits, d.chars = s ∧ d.value? = some n := by
  rw [readWidth, mapError_eq_ok_iff, Text.readNumeral_eq_ok_iff]
  constructor
  · rintro ⟨hne, hshort, hdecimal, hvalue⟩
    refine ⟨hne, ⟨s, hdecimal, hshort⟩, rfl, ?_⟩
    rw [Digits.value?, if_neg (by simpa using hne), hvalue]
  · rintro ⟨hne, d, rfl, hvalue⟩
    rw [Digits.value?, if_neg (by simpa using hne)] at hvalue
    exact ⟨hne, d.short, d.decimal, Option.some.inj hvalue⟩

theorem readSize_eq_ok_iff {shown s : List CodePoint} {size : Option Nat} :
    readSize shown s = .ok size ↔ ∃ d : Digits, d.chars = s ∧ d.value? = size := by
  by_cases hnil : s = []
  · subst hnil
    constructor
    · intro h
      exact ⟨⟨[], by simp, by simp⟩, rfl, Except.ok.inj h⟩
    · rintro ⟨d, hchars, rfl⟩
      rw [Digits.value?, hchars]
      rfl
  · have hempty : s.isEmpty = false := by simpa using hnil
    rw [readSize, hempty, if_neg Bool.false_ne_true]
    constructor
    · intro h
      split at h
      · obtain ⟨n, hn, rfl⟩ := map_eq_ok_iff.mp h
        exact (readWidth_eq_ok_iff.mp hn).2
      · cases h
    · rintro ⟨d, rfl, rfl⟩
      have hsigns : d.chars.all Text.isDigitSign = true :=
        List.all_eq_true.mpr fun c hc ↦ Text.isDigitSign_of_isDecimalDigit (d.decimal c hc)
      have hvalue : d.value? = some (Text.numeralValue d.chars) := by
        rw [Digits.value?, hempty, if_neg Bool.false_ne_true]
      rw [if_pos hsigns, hvalue, map_eq_ok_iff]
      exact ⟨_, readWidth_eq_ok_iff.mpr ⟨hnil, d, rfl, hvalue⟩, rfl⟩

/-! ## Bases -/

theorem digitsAfter?_eq_some_iff {word s digits : List CodePoint} :
    digitsAfter? word s = some digits ↔
      s = word ++ digits ∧ ∀ c ∈ digits, Text.isDecimalDigit c = true := by
  rw [digitsAfter?]
  split
  · next h =>
    obtain ⟨rest, rfl⟩ := List.isPrefixOf_iff_prefix.mp h.1
    have hall : ∀ c ∈ rest, Text.isDecimalDigit c = true := by simpa using h.2
    simp only [List.drop_left, Option.some.injEq, List.append_cancel_left_eq]
    constructor
    · rintro rfl
      exact ⟨rfl, hall⟩
    · intro h
      exact h.1
  · next h =>
    constructor
    · intro hnone
      cases hnone
    · rintro ⟨rfl, hall⟩
      rw [List.drop_left] at h
      exact absurd ⟨List.isPrefixOf_iff_prefix.mpr (List.prefix_append _ _),
        List.all_eq_true.mpr hall⟩ h

private theorem match_digits (d : Digits) (meant : Option Nat → Base) (other : Except Fault Base) :
    (match some d.chars with
      | some [] => Except.ok (meant none)
      | some digits => (readWidth digits).map fun n ↦ meant (some n)
      | none => other) = .ok (meant d.value?) := by
  by_cases hnil : d.chars = []
  · rw [Digits.value?, hnil]
    rfl
  · have hvalue : d.value? = some (Text.numeralValue d.chars) := by
      rw [Digits.value?, if_neg (by simpa using hnil)]
    have hwidth := readWidth_eq_ok_iff.mpr ⟨hnil, d, rfl, hvalue⟩
    split
    · next h => exact absurd (Option.some.inj h) hnil
    · next digits _ h =>
      rw [← Option.some.inj h, hwidth, hvalue]
      rfl
    · next h => cases h

/-- What is read where a word that takes digits is looked for comes from the digits behind the word,
or the word is not there. -/
private theorem exists_of_match_digitsAfter? (meant : Option Nat → Base) {word s : List CodePoint}
    {other : Except Fault Base} {base : Base}
    (h : (match digitsAfter? word s with
      | some [] => Except.ok (meant none)
      | some digits => (readWidth digits).map fun n ↦ meant (some n)
      | none => other) = .ok base) :
    (∃ d : Digits, word ++ d.chars = s ∧ meant d.value? = base) ∨ other = .ok base := by
  split at h
  · next hafter =>
    obtain ⟨rfl, -⟩ := digitsAfter?_eq_some_iff.mp hafter
    exact Or.inl ⟨⟨[], by simp, by simp⟩, rfl, Except.ok.inj h⟩
  · next digits _ hafter =>
    obtain ⟨rfl, -⟩ := digitsAfter?_eq_some_iff.mp hafter
    obtain ⟨n, hn, rfl⟩ := map_eq_ok_iff.mp h
    obtain ⟨-, d, rfl, hvalue⟩ := readWidth_eq_ok_iff.mp hn
    exact Or.inl ⟨d, rfl, by rw [hvalue]⟩
  · exact Or.inr h

theorem Base.read_text (b : BaseSpelling) : Base.read b.text = .ok b.base := by
  have hafter : ∀ (word : List CodePoint) (d : Digits),
      digitsAfter? word (word ++ d.chars) = some d.chars :=
    fun word d ↦ digitsAfter?_eq_some_iff.mpr ⟨rfl, d.decimal⟩
  cases b with
  | bool | address | string | byte | tuple => rfl
  | uint width =>
    rw [BaseSpelling.text, BaseSpelling.word, BaseSpelling.digits, Base.read, hafter]
    exact match_digits width (fun v ↦ .uint (v.getD 256)) _
  | int width =>
    rw [BaseSpelling.text, BaseSpelling.word, BaseSpelling.digits, Base.read, hafter]
    exact match_digits width (fun v ↦ .int (v.getD 256)) _
  | bytes size =>
    rw [BaseSpelling.text, BaseSpelling.word, BaseSpelling.digits, Base.read, hafter]
    exact match_digits size .bytes _

theorem Base.exists_spelling {s : List CodePoint} {base : Base} (h : Base.read s = .ok base) :
    ∃ b : BaseSpelling, b.text = s ∧ b.base = base := by
  rw [Base.read] at h
  by_cases hbool : s = Text.toList "bool"
  · rw [if_pos hbool] at h
    exact ⟨.bool, hbool.symm, Except.ok.inj h⟩
  by_cases haddress : s = Text.toList "address"
  · rw [if_neg hbool, if_pos haddress] at h
    exact ⟨.address, haddress.symm, Except.ok.inj h⟩
  by_cases hstring : s = Text.toList "string"
  · rw [if_neg hbool, if_neg haddress, if_pos hstring] at h
    exact ⟨.string, hstring.symm, Except.ok.inj h⟩
  by_cases hbyte : s = Text.toList "byte"
  · rw [if_neg hbool, if_neg haddress, if_neg hstring, if_pos hbyte] at h
    exact ⟨.byte, hbyte.symm, Except.ok.inj h⟩
  by_cases htuple : s = Text.toList "tuple"
  · rw [if_neg hbool, if_neg haddress, if_neg hstring, if_neg hbyte, if_pos htuple] at h
    exact ⟨.tuple, htuple.symm, Except.ok.inj h⟩
  rw [if_neg hbool, if_neg haddress, if_neg hstring, if_neg hbyte, if_neg htuple] at h
  rcases exists_of_match_digitsAfter? (fun v ↦ .uint (v.getD 256)) h with ⟨width, rfl, rfl⟩ | h
  · exact ⟨.uint width, rfl, rfl⟩
  rcases exists_of_match_digitsAfter? (fun v ↦ .int (v.getD 256)) h with ⟨width, rfl, rfl⟩ | h
  · exact ⟨.int width, rfl, rfl⟩
  rcases exists_of_match_digitsAfter? .bytes h with ⟨size, rfl, rfl⟩ | h
  · exact ⟨.bytes size, rfl, rfl⟩
  · cases h

def words : List String :=
  ["bool", "address", "string", "byte", "tuple", "uint", "int", "bytes"]

theorem BaseSpelling.word_mem_words (b : BaseSpelling) : b.word ∈ words := by
  cases b <;> simp [word, words]

theorem BaseSpelling.text_ne_nil (b : BaseSpelling) : b.text ≠ [] := by
  have hwords : ∀ word ∈ words, Text.toList word ≠ [] := by decide
  exact List.append_ne_nil_of_left_ne_nil (hwords _ b.word_mem_words) _

theorem BaseSpelling.isDecimalDigit_of_mem_digits {b : BaseSpelling} {c : CodePoint}
    (h : c ∈ b.digits) : Text.isDecimalDigit c = true := by
  cases b with
  | uint d | int d | bytes d => exact d.decimal c h
  | bool | address | string | byte | tuple => exact absurd h List.not_mem_nil

theorem BaseSpelling.of_mem_text {b : BaseSpelling} {c : CodePoint} (h : c ∈ b.text) :
    Text.isBlank c = false ∧ c ≠ .char ']' := by
  have hwords : ∀ word ∈ words,
      ((Text.toList word).all fun c ↦ !Text.isBlank c && c != ']') = true := by
    decide
  rcases List.mem_append.mp h with hword | hdigits
  · have hchar := List.all_eq_true.mp (hwords _ b.word_mem_words) c hword
    simpa using hchar
  · have hdigit := isDecimalDigit_of_mem_digits hdigits
    refine ⟨Text.isBlank_of_isDecimalDigit hdigit, ?_⟩
    rintro rfl
    exact absurd hdigit (by decide)

/-! ## Dimensions -/

theorem splitDimension?_append (front : List CodePoint) {size : List CodePoint}
    (h : ∀ c ∈ size, Text.isDigitSign c = true) :
    splitDimension? (front ++ .char '[' :: (size ++ [.char ']'])) = some (front, size) := by
  have hreverse : (front ++ CodePoint.char '[' :: (size ++ [CodePoint.char ']'])).reverse
      = .char ']' :: (size.reverse ++ .char '[' :: front.reverse) := by simp
  have hinside : ∀ c ∈ size.reverse, decide (c ≠ .char '[') = true := by
    intro c hc
    rw [decide_eq_true_eq]
    rintro rfl
    exact absurd (h _ (List.mem_reverse.mp hc)) (by decide)
  simp only [splitDimension?, hreverse, List.dropWhile_append_of_pos hinside,
    List.takeWhile_append_of_pos hinside]
  simp

theorem splitDimension?_eq_none {front : List CodePoint} {last : CodePoint} (h : last ≠ .char ']') :
    splitDimension? (front ++ [last]) = none := by
  rw [splitDimension?, List.reverse_append, List.reverse_singleton, List.singleton_append]
  split
  · next heq => exact absurd (List.cons.inj heq).1 h
  · rfl

theorem eq_append_of_splitDimension? {s front size : List CodePoint} (hne : front ≠ [])
    (h : splitDimension? s = some (front, size)) :
    s = front ++ .char '[' :: (size ++ [.char ']']) := by
  rw [splitDimension?] at h
  split at h
  · next back hback =>
    obtain ⟨hfront, hsize⟩ := Prod.mk.inj (Option.some.inj h)
    have hrest : back.dropWhile (· ≠ .char '[') ≠ [] := by
      intro hnil
      rw [hnil] at hfront
      exact hne hfront.symm
    have hopen : (back.dropWhile (· ≠ .char '[')).head hrest = .char '[' := by
      simpa using List.head_dropWhile_not (fun c ↦ decide (c ≠ CodePoint.char '[')) hrest
    have hcons : .char '[' :: (back.dropWhile (· ≠ .char '[')).tail
        = back.dropWhile (· ≠ .char '[') := by
      have hparts := List.cons_head_tail hrest
      rwa [hopen] at hparts
    have hback' : back = size.reverse ++ .char '[' :: front.reverse := by
      rw [← hfront, ← hsize, List.reverse_reverse, List.reverse_reverse, List.drop_one, hcons,
        List.takeWhile_append_dropWhile]
    rw [← List.reverse_reverse s, hback, hback']
    simp
  · cases h

/-! ## Signatures -/

section Outer

variable {outer : List (Option Nat)} {s : List CodePoint}

/-- A signature is read by its last dimension and then by what stands in front of it. -/
theorem readOuter_eq (outer : List (Option Nat)) (s : List CodePoint) :
    readOuter outer s =
      match splitDimension? (Text.strip s) with
      | none => (Base.read (Text.strip s)).map fun base ↦ ⟨base, outer⟩
      | some (front, size) =>
        if front.isEmpty then .error (.unknownType ⟨Text.strip s⟩)
        else
          match readSize (Text.strip s) size with
          | .error fault => .error fault
          | .ok n => readOuter (n :: outer) front := by
  cases hsplit : splitDimension? (Text.strip s) with
  | none =>
    rw [readOuter]
    split
    · rfl
    · next hsome => cases hsplit.symm.trans hsome
  | some parts =>
    rw [readOuter]
    split
    · next hnone => cases hsplit.symm.trans hnone
    · next hsome =>
      cases hsplit.symm.trans hsome
      rfl

theorem readOuter_of_none (h : splitDimension? (Text.strip s) = none) :
    readOuter outer s = (Base.read (Text.strip s)).map fun base ↦ ⟨base, outer⟩ := by
  rw [readOuter_eq, h]

theorem readOuter_base {first last : CodePoint} {rest front : List CodePoint}
    (hfirst : s = first :: rest) (hlast : s = front ++ [last])
    (hfirstInk : Text.isBlank first = false) (hlastInk : Text.isBlank last = false)
    (hbracket : last ≠ .char ']') :
    readOuter outer s = (Base.read s).map fun base ↦ ⟨base, outer⟩ := by
  have hstrip := Text.strip_eq_self hfirst hlast hfirstInk hlastInk
  have hnone : splitDimension? (Text.strip s) = none := by
    rw [hstrip, hlast]
    exact splitDimension?_eq_none hbracket
  rw [readOuter_of_none hnone, hstrip]

/-- **Dimensions are taken off one after the other.** Behind a text that starts with no blank,
dimensions are read as what they mean, and then the text is read. -/
theorem readOuter_dimensions (outer : List (Option Nat)) {core : List CodePoint} {first : CodePoint}
    {rest : List CodePoint} (hcore : core = first :: rest) (hink : Text.isBlank first = false)
    (dimensions : List DimensionSpelling) (lead trail : Blanks) :
    readOuter outer
        (lead.chars ++ (core ++ (dimensions.flatMap DimensionSpelling.text ++ trail.chars)))
      = readOuter (dimensions.map (fun d ↦ d.size.value?) ++ outer) core := by
  induction dimensions using List.reverseRecOn generalizing outer lead trail with
  | nil =>
    have hstrip : Text.strip (lead.chars ++ (core ++ trail.chars)) = Text.strip core :=
      Text.strip_between lead.blank trail.blank core
    change readOuter outer (lead.chars ++ (core ++ trail.chars)) = readOuter outer core
    rw [readOuter_eq, hstrip, ← readOuter_eq]
  | append_singleton before d ih =>
    -- The blanks in front of the last brackets end the text that is left.
    obtain ⟨front, hfront⟩ : ∃ front,
        front = core ++ (before.flatMap DimensionSpelling.text ++ d.blanks.chars) := ⟨_, rfl⟩
    have hwhole : core ++ ((before ++ [d]).flatMap DimensionSpelling.text ++ trail.chars)
        = (front ++ .char '[' :: (d.size.chars ++ [.char ']'])) ++ trail.chars := by
      rw [hfront]
      simp [DimensionSpelling.text]
    have hfirst : front ++ .char '[' :: (d.size.chars ++ [.char ']']) = first :: (rest ++
        (before.flatMap DimensionSpelling.text ++ d.blanks.chars) ++
          .char '[' :: (d.size.chars ++ [.char ']'])) := by
      rw [hfront, hcore, List.cons_append, List.cons_append]
    have hlast : front ++ .char '[' :: (d.size.chars ++ [.char ']'])
        = (front ++ .char '[' :: d.size.chars) ++ [.char ']'] := by simp
    have hstrip := Text.strip_between lead.blank trail.blank
      (front ++ .char '[' :: (d.size.chars ++ [.char ']']))
    rw [← hwhole, Text.strip_eq_self hfirst hlast hink (by decide)] at hstrip
    have hsigns : ∀ c ∈ d.size.chars, Text.isDigitSign c = true :=
      fun c hc ↦ Text.isDigitSign_of_isDecimalDigit (d.size.decimal c hc)
    have hne : front.isEmpty = false := by simp [hfront, hcore]
    have hsize : ∀ shown, readSize shown d.size.chars = .ok d.size.value? :=
      fun shown ↦ readSize_eq_ok_iff.mpr ⟨d.size, rfl, rfl⟩
    have hleft := ih (d.size.value? :: outer) ⟨[], by simp⟩ d.blanks
    rw [List.nil_append, ← hfront] at hleft
    rw [readOuter_eq, hstrip, splitDimension?_append front hsigns]
    simp only [hne, Bool.false_eq_true, if_false, hsize, hleft, List.map_append, List.map_cons,
      List.map_nil, List.append_assoc, List.singleton_append]

end Outer

theorem readOuter_text (outer : List (Option Nat)) (w : Spelling) :
    readOuter outer w.text
      = .ok ⟨w.base.base, w.dimensions.map (fun d ↦ d.size.value?) ++ outer⟩ := by
  have hne := w.base.text_ne_nil
  obtain ⟨first, rest, hfirst⟩ := List.exists_cons_of_ne_nil hne
  have hink : Text.isBlank first = false :=
    (BaseSpelling.of_mem_text (hfirst ▸ List.mem_cons_self)).1
  obtain ⟨hlastInk, hbracket⟩ := BaseSpelling.of_mem_text (List.getLast_mem hne)
  have hlast := (List.dropLast_concat_getLast hne).symm
  rw [Spelling.text, Spelling.core, List.append_assoc, readOuter_dimensions outer hfirst hink,
    readOuter_base hfirst hlast hink hlastInk hbracket, Base.read_text]
  rfl

theorem exists_spelling_of_readOuter {outer : List (Option Nat)} {s : List CodePoint}
    {sig : Signature} (h : readOuter outer s = .ok sig) : ∃ w : Spelling, w.text = s ∧
      sig = ⟨w.base.base, w.dimensions.map (fun d ↦ d.size.value?) ++ outer⟩ := by
  fun_induction readOuter outer s with
  | case1 outer s hnone =>
    obtain ⟨before, after, hbefore, hafter, hs⟩ := Text.exists_eq_append_strip s
    obtain ⟨base, hbase, rfl⟩ := map_eq_ok_iff.mp h
    obtain ⟨b, hb, rfl⟩ := Base.exists_spelling hbase
    refine ⟨⟨⟨before, hbefore⟩, b, [], ⟨after, hafter⟩⟩, ?_, rfl⟩
    rw [hs, ← hb]
    simp [Spelling.text, Spelling.core]
  | case2 => cases h
  | case3 => cases h
  | case4 outer s front size hsplit hempty n hn hlt ih =>
    obtain ⟨before, after, hbefore, hafter, hs⟩ := Text.exists_eq_append_strip s
    obtain ⟨d, rfl, rfl⟩ := readSize_eq_ok_iff.mp hn
    have hstrip := eq_append_of_splitDimension? (by simpa using hempty) hsplit
    obtain ⟨w, rfl, rfl⟩ := ih h
    have hlead : ∀ c ∈ before ++ w.lead.chars, Text.isBlank c = true := by
      intro c hc
      rcases List.mem_append.mp hc with hc | hc
      · exact hbefore c hc
      · exact w.lead.blank c hc
    refine ⟨⟨⟨before ++ w.lead.chars, hlead⟩, w.base, w.dimensions ++ [⟨w.trail, d⟩],
      ⟨after, hafter⟩⟩, ?_, ?_⟩
    · rw [hs, hstrip]
      simp [Spelling.text, Spelling.core, DimensionSpelling.text]
    · simp

/-- **A signature is read as it is written.** -/
theorem read_eq_ok_iff {s : List CodePoint} {sig : Signature} :
    read s = .ok sig ↔ ∃ w : Spelling, w.text = s ∧ w.signature = sig := by
  constructor
  · intro h
    obtain ⟨w, hw, rfl⟩ := exists_spelling_of_readOuter h
    exact ⟨w, hw, by rw [List.append_nil, Spelling.signature]⟩
  · rintro ⟨w, rfl, rfl⟩
    rw [read, readOuter_text, List.append_nil, Spelling.signature]

/-! ## Refused signatures -/

section Refusals

variable {α β : Type}

/-- A step fails only over the content of a value of the right kind. -/
def FailsByContent (step : Except Fault α) : Prop :=
  ∀ fault, step = .error fault → fault.kind = .value

theorem FailsByContent.map {step : Except Fault α} (h : FailsByContent step) (f : α → β) :
    FailsByContent (step.map f) := by
  intro fault hfault
  cases step with
  | ok a => cases hfault
  | error other => exact h fault (congrArg Except.error (Except.error.inj hfault))

theorem failsByContent_readWidth (digits : List CodePoint) : FailsByContent (readWidth digits) := by
  intro fault hfault
  rw [readWidth] at hfault
  cases hread : Text.readNumeral digits with
  | ok n =>
    rw [hread] at hfault
    cases hfault
  | error other =>
    rw [hread] at hfault
    obtain rfl := Except.error.inj hfault
    rfl

theorem failsByContent_unknownType (text : Text) :
    FailsByContent (.error (.unknownType text) : Except Fault α) := by
  intro fault hfault
  obtain rfl := Except.error.inj hfault
  rfl

theorem Base.failsByContent_read (s : List CodePoint) : FailsByContent (Base.read s) := by
  have hwidth : ∀ (digits : List CodePoint) (f : Nat → Base),
      FailsByContent ((readWidth digits).map f) :=
    fun digits f ↦ (failsByContent_readWidth digits).map f
  unfold Base.read
  repeat' split
  all_goals first
    | exact hwidth _ _
    | exact failsByContent_unknownType _
    | exact fun fault hfault ↦ nomatch hfault

theorem failsByContent_readOuter (outer : List (Option Nat)) (s : List CodePoint) :
    FailsByContent (readOuter outer s) := by
  fun_induction readOuter outer s with
  | case1 outer s hsplit => exact (Base.failsByContent_read _).map _
  | case2 outer s front size hsplit hempty => exact failsByContent_unknownType _
  | case3 outer s front size hsplit hempty fault hsize =>
    intro fault' hfault
    obtain rfl := Except.error.inj hfault
    rw [readSize] at hsize
    split at hsize
    · cases hsize
    · split at hsize
      · exact (failsByContent_readWidth size).map some fault hsize
      · exact failsByContent_unknownType _ fault hsize
  | case4 outer s front size hsplit hempty n hn hlt ih => exact ih

end Refusals

end Signature

/-! ## Types -/

namespace EvmType

open Signature

theorem type_eq_wrap (w : Spelling) (components : List (Json × EvmType)) :
    w.type components = (ofBase components w.signature.base).wrap w.signature.dimensions := by
  have hbase : w.base.type components = ofBase components w.base.base := by
    cases w.base <;> rfl
  rw [Spelling.type, hbase, Spelling.signature, wrap, List.foldl_map]

theorem base_eq_tuple_iff (w : Spelling) : w.signature.base = .tuple ↔ w.base = .tuple := by
  have hbase : w.base.base = .tuple ↔ w.base = .tuple := by
    cases w.base <;> simp [BaseSpelling.base]
  exact hbase

theorem readTuple_of_truthy_eq_false {components : Json} (h : components.truthy = false) :
    readTuple (components.orElse (.arr [])) = .ok [] := by
  rw [Json.orElse, h, if_neg Bool.false_ne_true, readTuple, readComponents]
  rfl

/-- Once its signature is read, a type asks for its components if it is a tuple. -/
theorem read_of_signature {raw : Json} {sig : Signature} (h : signature raw = .ok sig)
    (components : Json) : read raw components
      = (if sig.base = .tuple then readTuple (components.orElse (.arr [])) else .ok []).map
          fun cs ↦ (ofBase cs sig.base).wrap sig.dimensions := by
  rw [read, h]
  change (if sig.base = .tuple ∧ components.truthy = true then
      readTuple components >>= fun cs ↦ pure ((ofBase cs sig.base).wrap sig.dimensions)
    else pure ((ofBase [] sig.base).wrap sig.dimensions)) = _
  by_cases hbase : sig.base = .tuple
  · by_cases htruthy : components.truthy = true
    · rw [if_pos ⟨hbase, htruthy⟩, if_pos hbase, Json.orElse, if_pos htruthy]
      cases readTuple components <;> rfl
    · rw [if_neg fun h ↦ htruthy h.2, if_pos hbase,
        readTuple_of_truthy_eq_false (Bool.not_eq_true _ ▸ htruthy)]
      rfl
  · rw [if_neg fun h ↦ hbase h.1, if_neg hbase]
    rfl

theorem read_of_signature_error {raw : Json} {fault : Fault} (h : signature raw = .error fault)
    (components : Json) : read raw components = .error fault := by
  rw [read, h]
  rfl

/-- **Types by the grammar.** A text that follows the grammar is read as the type that is written,
which asks for components only if its base is a tuple. Any other text is refused, whatever the
components are. -/
theorem read_spelled (s : Text) :
    (∀ w : Spelling, w.text = s.toList → ∀ components,
      (w.base ≠ .tuple → read (.str s) components = .ok (w.type [])) ∧
      (w.base = .tuple →
        read (.str s) components = (readTuple (components.orElse (.arr []))).map w.type)) ∧
    (¬IsSpelled s.toList → ∃ fault : Fault, fault.kind = .value ∧
      ∀ components, read (.str s) components = .error fault) := by
  constructor
  · intro w hw components
    have hread : signature (.str s) = .ok w.signature := read_eq_ok_iff.mpr ⟨w, hw, rfl⟩
    rw [read_of_signature hread]
    constructor
    · intro hbase
      rw [if_neg (mt (base_eq_tuple_iff w).mp hbase), type_eq_wrap]
      rfl
    · intro hbase
      rw [if_pos ((base_eq_tuple_iff w).mpr hbase)]
      congr 1
      funext cs
      exact (type_eq_wrap w cs).symm
  · intro h
    cases hread : signature (.str s) with
    | ok sig =>
      obtain ⟨w, hw, -⟩ := read_eq_ok_iff.mp hread
      exact absurd ⟨w, hw⟩ h
    | error fault =>
      have hkind := failsByContent_readOuter [] s.toList fault hread
      exact ⟨fault, hkind, read_of_signature_error hread⟩

/-- A grid of small numbers, with blanks wherever they may stand. -/
private def gridSpelling : Spelling where
  lead := ⟨['\u00a0'], List.all_eq_true.mp (by decide)⟩
  base := .uint ⟨['0', '8'], List.all_eq_true.mp (by decide), by decide⟩
  dimensions :=
    [⟨⟨[' '], List.all_eq_true.mp (by decide)⟩,
        ⟨['2'], List.all_eq_true.mp (by decide), by decide⟩⟩,
      ⟨⟨['\t'], List.all_eq_true.mp (by decide)⟩, ⟨[], by simp, by decide⟩⟩]
  trail := ⟨['\n'], List.all_eq_true.mp (by decide)⟩

/-- A sequence of records. -/
private def recordsSpelling : Spelling where
  lead := ⟨[], by simp⟩
  base := .tuple
  dimensions := [⟨⟨[], by simp⟩, ⟨[], by simp, by decide⟩⟩]
  trail := ⟨[], by simp⟩

/-- The components of a record of one truth value. -/
private def recordComponents : Json := .arr [.obj [("name", .str "at"), ("type", .str "bool")]]

/-- The first dimension is innermost, only a tuple looks at components, and a digit sign that is no
decimal digit is no width. -/
theorem read_spelled_grid :
    read (.str "\u00a0uint08 [2]\t[]\n") (.arr [.null])
      = .ok (.array (.array (.uint 8) (some 2)) none) ∧
    read (.str "tuple[]") recordComponents = .ok (.array (.tuple [(.str "at", .bool)]) none) ∧
    ∃ fault : Fault, fault.kind = .value ∧
      ∀ components, read (.str "uint²") components = .error fault := by
  have hgrid := (read_spelled "\u00a0uint08 [2]\t[]\n").1 gridSpelling (by decide) (.arr [.null])
  have hrecords := (read_spelled "tuple[]").1 recordsSpelling (by decide) recordComponents
  have hrefused : ¬IsSpelled (Text.toList "uint²") := by
    rintro ⟨w, hw⟩
    have hread := read_eq_ok_iff.mpr ⟨w, hw, rfl⟩
    have hstrip : Text.strip (Text.toList "uint²") = Text.toList "uint²" := by decide
    have hnone : splitDimension? (Text.strip (Text.toList "uint²")) = none := by
      rw [hstrip]
      rfl
    have hbase : Base.read (Text.toList "uint²") = .error (.unknownType "uint²") := by rfl
    rw [Signature.read, readOuter_of_none hnone, hstrip, hbase] at hread
    cases hread
  have hitems : recordComponents.orElse (.arr []) = recordComponents := rfl
  have hbool : read (.str "bool") .null = .ok .bool :=
    ((read_spelled "bool").1 BaseSpelling.bool.alone (BaseSpelling.text_alone _) .null).1
      (by simp [BaseSpelling.alone])
  have hcomponents : readTuple recordComponents = .ok [(.str "at", .bool)] := by
    have hrequire : (Json.obj [("name", .str "at"), ("type", .str "bool")]).require "type"
        = .ok (.str "bool") := by
      simp [Json.require, List.lookup_cons]
    rw [recordComponents, readTuple, readComponents, hrequire]
    dsimp only [bind, Except.bind]
    split
    · next nested h => simp [List.lookup_cons] at h
    · rw [hbool, readComponents]
      rfl
  have hnumber : gridSpelling.base ≠ .tuple := by
    intro h
    cases h
  refine ⟨hgrid.1 hnumber, ?_, (read_spelled "uint²").2 hrefused⟩
  rw [hrecords.2 rfl, hitems, hcomponents]
  rfl

end EvmType

end AbiTypings
