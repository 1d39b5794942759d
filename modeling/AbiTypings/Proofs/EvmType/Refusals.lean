import AbiTypings.Proofs.EvmType.Grammar

/-!
# What a refused signature shows

A signature that is refused is an unknown type, and the fault shows the part that is left to read: a
beginning of the text, since dimensions are taken off from the end. There is one exception. Digit
signs in brackets, and digits behind the word of a base, are handed over as numbers, and then it is
the reader of numbers that refuses them. It knows neither digit signs without a value, such as a
superscript, nor more digits than `Text.digitLimit`, and its fault says nothing about types.

`Signature.ComesTo` says which digits a reading comes to, on the spelling of the text alone: behind
them stand nothing but proper dimensions. With it both halves are exact: the fault is that of a
number if reading comes to digits that are none (`readOuter_of_comesTo`), and otherwise it shows a
beginning of the text (`refusal_of_readOuter`).
-/

namespace AbiTypings

theorem map_eq_error_iff {α β : Type} {step : Except Fault α} {f : α → β} {fault : Fault} :
    step.map f = .error fault ↔ step = .error fault := by
  cases step with
  | ok a => exact iff_of_false nofun nofun
  | error other => exact ⟨fun h ↦ congrArg Except.error (Except.error.inj h),
      fun h ↦ congrArg Except.error (Except.error.inj h)⟩

/-! ## Beginnings of stripped texts -/

namespace Text

theorem isPrefix_strip (s : List CodePoint) : strip s <+: s.dropWhile isBlank := by
  rw [strip, ← List.reverse_suffix, List.reverse_reverse]
  exact List.dropWhile_suffix _

theorem strip_ne_nil {first : CodePoint} {rest : List CodePoint} (h : isBlank first = false) :
    strip (first :: rest) ≠ [] := by
  rw [strip, List.dropWhile_cons_of_neg (by simp [h]), Ne, List.reverse_eq_nil_iff,
    List.dropWhile_eq_nil_iff]
  intro hblank
  have hfirst := hblank first (by simp)
  rw [h] at hfirst
  cases hfirst

theorem isBlank_of_strip_eq_cons {s : List CodePoint} {first : CodePoint} {rest : List CodePoint}
    (h : strip s = first :: rest) : isBlank first = false := by
  obtain ⟨after, hafter⟩ := isPrefix_strip s
  rw [h] at hafter
  have hhead := List.head?_dropWhile_not isBlank s
  rw [← hafter] at hhead
  simpa using hhead

end Text

namespace Signature

/-! ## Digits that are taken for a number -/

/-- The words that take digits. -/
def wordsWithDigits : List String := ["uint", "int", "bytes"]

/-- A text ends in digits that are taken for a number: digit signs in brackets, with something in
front of them, or decimal digits behind a word. -/
inductive EndsInDigits (digits : List CodePoint) : List CodePoint → Prop
  /-- The size of a dimension. -/
  | size (first : CodePoint) (rest : List CodePoint) :
    Text.isBlank first = false → digits ≠ [] → (∀ c ∈ digits, Text.isDigitSign c = true) →
    EndsInDigits digits (first :: (rest ++ .char '[' :: (digits ++ [.char ']'])))
  /-- The width or the size of a base. -/
  | width (word : String) :
    word ∈ wordsWithDigits → digits ≠ [] → (∀ c ∈ digits, Text.isDecimalDigit c = true) →
    EndsInDigits digits (Text.toList word ++ digits)

/-- Behind what ends in these digits stand only dimensions and blanks. -/
def ComesTo (digits s : List CodePoint) : Prop :=
  ∃ (lead trail : Blanks) (core : List CodePoint) (dimensions : List DimensionSpelling),
    EndsInDigits digits core ∧
      s = lead.chars ++ (core ++ (dimensions.flatMap DimensionSpelling.text ++ trail.chars))

/-- Digits that are read as a number. -/
def IsNumber (digits : List CodePoint) : Prop := ∃ d : Digits, d.chars = digits

theorem isNumber_iff {digits : List CodePoint} : IsNumber digits ↔
    (∀ c ∈ digits, Text.isDecimalDigit c = true) ∧ digits.length ≤ Text.digitLimit := by
  constructor
  · rintro ⟨d, rfl⟩
    exact ⟨d.decimal, d.short⟩
  · rintro ⟨hdecimal, hshort⟩
    exact ⟨⟨digits, hdecimal, hshort⟩, rfl⟩

theorem not_isNumber_of_readWidth {digits : List CodePoint} (hne : digits ≠ []) {fault : Fault}
    (h : readWidth digits = .error fault) : ¬IsNumber digits ∧ ∃ why, fault = .numeral why := by
  rw [readWidth] at h
  cases hread : Text.readNumeral digits with
  | ok n =>
    rw [hread] at h
    cases h
  | error why =>
    rw [hread] at h
    refine ⟨?_, why, (Except.error.inj h).symm⟩
    rintro ⟨d, rfl⟩
    have hok := Text.readNumeral_eq_ok_iff.mpr ⟨hne, d.short, d.decimal, rfl⟩
    rw [hread] at hok
    cases hok

theorem exists_readWidth_of_not_isNumber {digits : List CodePoint} (h : ¬IsNumber digits) :
    ∃ why, readWidth digits = .error (.numeral why) := by
  cases hread : readWidth digits with
  | ok n =>
    obtain ⟨-, d, hd, -⟩ := readWidth_eq_ok_iff.mp hread
    exact absurd ⟨d, hd⟩ h
  | error fault =>
    rw [readWidth] at hread
    cases hnumeral : Text.readNumeral digits with
    | ok n =>
      rw [hnumeral] at hread
      cases hread
    | error why =>
      rw [hnumeral] at hread
      exact ⟨why, congrArg Except.error (Except.error.inj hread).symm⟩

/-! ## Bases -/

/-- What is refused where a word that takes digits is looked for are the digits behind it, or the
word is not there. -/
private theorem exists_of_match_digitsAfter?_error {word s : List CodePoint} {bare : Base}
    {meant : Nat → Base} {other : Except Fault Base} {fault : Fault}
    (h : (match digitsAfter? word s with
      | some [] => Except.ok bare
      | some digits => (readWidth digits).map meant
      | none => other) = .error fault) :
    (∃ digits, digits ≠ [] ∧ s = word ++ digits ∧ (∀ c ∈ digits, Text.isDecimalDigit c = true) ∧
      readWidth digits = .error fault) ∨ other = .error fault := by
  split at h
  · cases h
  · next digits hne hafter =>
    obtain ⟨hs, hdecimal⟩ := digitsAfter?_eq_some_iff.mp hafter
    exact Or.inl ⟨digits, fun hnil ↦ hne (by rw [hnil]), hs, hdecimal, map_eq_error_iff.mp h⟩
  · exact Or.inr h

/-- A base is refused as a whole or over the digits behind its word. -/
theorem Base.refusal_of_read {s : List CodePoint} {fault : Fault} (h : Base.read s = .error fault) :
    fault = .unknownType (⟨s⟩) ∨
      ∃ digits, EndsInDigits digits s ∧ readWidth digits = .error fault := by
  rw [Base.read] at h
  iterate 5
    split at h
    · cases h
  have hwidth : ∀ word ∈ wordsWithDigits, (∃ digits, digits ≠ [] ∧ s = Text.toList word ++ digits ∧
      (∀ c ∈ digits, Text.isDecimalDigit c = true) ∧ readWidth digits = .error fault) →
      ∃ digits, EndsInDigits digits s ∧ readWidth digits = .error fault := by
    rintro word hword ⟨digits, hne, rfl, hdecimal, hread⟩
    exact ⟨digits, .width word hword hne hdecimal, hread⟩
  rcases exists_of_match_digitsAfter?_error h with huint | h
  · exact Or.inr (hwidth "uint" (by decide) huint)
  rcases exists_of_match_digitsAfter?_error h with hint | h
  · exact Or.inr (hwidth "int" (by decide) hint)
  rcases exists_of_match_digitsAfter?_error h with hbytes | h
  · exact Or.inr (hwidth "bytes" (by decide) hbytes)
  · exact Or.inl (Except.error.inj h).symm

private theorem match_digits_error {digits : List CodePoint} {bare : Base} {meant : Nat → Base}
    {other : Except Fault Base} {fault : Fault} (hne : digits ≠ [])
    (hread : readWidth digits = .error fault) :
    (match some digits with
      | some [] => Except.ok bare
      | some digits => (readWidth digits).map meant
      | none => other) = .error fault := by
  split
  · next h => exact absurd (Option.some.inj h) hne
  · next h =>
    rw [← Option.some.inj h, hread]
    rfl
  · next h => cases h

theorem Base.read_word_append {word : String} {digits : List CodePoint} {fault : Fault}
    (hword : word ∈ wordsWithDigits) (hne : digits ≠ [])
    (hdecimal : ∀ c ∈ digits, Text.isDecimalDigit c = true)
    (hread : readWidth digits = .error fault) :
    Base.read (Text.toList word ++ digits) = .error fault := by
  have hafter : ∀ word : List CodePoint, digitsAfter? word (word ++ digits) = some digits :=
    fun word ↦ digitsAfter?_eq_some_iff.mpr ⟨rfl, hdecimal⟩
  simp only [wordsWithDigits, List.mem_cons, List.not_mem_nil, or_false] at hword
  rcases hword with rfl | rfl | rfl
  all_goals
    rw [Base.read, hafter]
    exact match_digits_error hne hread

/-! ## Signatures -/

/-- A fault says that a type is unknown and shows a part of the text: a beginning of what stripping
leaves of it, which is empty only if stripping leaves nothing. -/
structure ShowsBeginning (s shown : List CodePoint) (fault : Fault) : Prop where
  /-- The content of the text is refused. -/
  kind : fault.kind = .value
  /-- The fault shows the part. -/
  message : fault.message = "Unknown type: " ++ Text.ofList shown
  /-- The part is a beginning. -/
  beginning : shown <+: Text.strip s
  /-- The part is not empty. -/
  nonempty : shown = [] → Text.strip s = []

private theorem head?_eq_of_append_eq {front front' rest rest' : Text} {c c' : CodePoint}
    (hc : front.toList.head? = some c) (hc' : front'.toList.head? = some c')
    (h : front ++ rest = front' ++ rest') : c = c' := by
  have hhead := congrArg (fun text ↦ text.toList.head?) h
  simp only [Text.toList_append, List.head?_append, hc, hc', Option.some_or] at hhead
  exact Option.some.inj hhead

theorem not_showsBeginning_numeral (s shown : List CodePoint) (why : Text.NumeralFault) :
    ¬ShowsBeginning s shown (.numeral why) := by
  intro h
  have hunknown : (Text.toList "Unknown type: ").head? = some 'U' := by decide
  cases why with
  | tooLong digits =>
    have hlimit : (Text.toList "Exceeds the limit (").head? = some 'E' := by decide
    have hmessage : "Exceeds the limit (" ++ toString Text.digitLimit ++
          " digits) for integer string conversion: value has " ++ toString digits ++
          " digits; use sys.set_int_max_str_digits() to increase the limit"
        = "Unknown type: " ++ Text.ofList shown := h.message
    rw [Text.append_assoc, Text.append_assoc, Text.append_assoc] at hmessage
    exact absurd (head?_eq_of_append_eq hlimit hunknown hmessage) (by decide)
  | malformed text =>
    have hinvalid : (Text.toList "invalid literal for int() with base 10: ").head? = some 'i' := by
      decide
    exact absurd (head?_eq_of_append_eq hinvalid hunknown h.message) (by decide)

theorem showsBeginning_strip (s : List CodePoint) :
    ShowsBeginning s (Text.strip s) (.unknownType ⟨Text.strip s⟩) :=
  ⟨rfl, rfl, List.prefix_refl _, id⟩

/-- Whatever is shown of a part in front of the last dimension is a beginning of the whole. -/
theorem ShowsBeginning.of_front {s front size shown : List CodePoint} {fault : Fault}
    (h : ShowsBeginning front shown fault) (hne : front ≠ [])
    (hs : Text.strip s = front ++ .char '[' :: (size ++ [.char ']'])) :
    ShowsBeginning s shown fault := by
  obtain ⟨first, rest, rfl⟩ := List.exists_cons_of_ne_nil hne
  have hink : Text.isBlank first = false := Text.isBlank_of_strip_eq_cons hs
  have hfront := Text.isPrefix_strip (first :: rest)
  rw [List.dropWhile_cons_of_neg (by simp [hink])] at hfront
  refine ⟨h.kind, h.message, ?_, fun hnil ↦ absurd (h.nonempty hnil) (Text.strip_ne_nil hink)⟩
  rw [hs]
  exact (h.beginning.trans hfront).trans (List.prefix_append _ _)

theorem EndsInDigits.comesTo {digits core before after : List CodePoint}
    (h : EndsInDigits digits core) (hbefore : ∀ c ∈ before, Text.isBlank c = true)
    (hafter : ∀ c ∈ after, Text.isBlank c = true) :
    ComesTo digits (before ++ (core ++ after)) :=
  ⟨⟨before, hbefore⟩, ⟨after, hafter⟩, core, [], h, rfl⟩

theorem ComesTo.of_front {digits before front after : List CodePoint} (h : ComesTo digits front)
    (d : Digits) (hbefore : ∀ c ∈ before, Text.isBlank c = true)
    (hafter : ∀ c ∈ after, Text.isBlank c = true) :
    ComesTo digits (before ++ (front ++ .char '[' :: (d.chars ++ [.char ']']) ++ after)) := by
  obtain ⟨lead, trail, core, dimensions, hcore, rfl⟩ := h
  have hlead : ∀ c ∈ before ++ lead.chars, Text.isBlank c = true := by
    intro c hc
    rcases List.mem_append.mp hc with hc | hc
    · exact hbefore c hc
    · exact lead.blank c hc
  refine ⟨⟨before ++ lead.chars, hlead⟩, ⟨after, hafter⟩, core, dimensions ++ [⟨trail, d⟩], hcore,
    ?_⟩
  simp [DimensionSpelling.text]

theorem refusal_of_readSize {shown size : List CodePoint} {fault : Fault}
    (h : readSize shown size = .error fault) : fault = .unknownType ⟨shown⟩ ∨
      size ≠ [] ∧ (∀ c ∈ size, Text.isDigitSign c = true) ∧ readWidth size = .error fault := by
  rw [readSize] at h
  split at h
  · cases h
  · next hne =>
    split at h
    · next hsigns =>
      exact Or.inr ⟨by simpa using hne, List.all_eq_true.mp hsigns, map_eq_error_iff.mp h⟩
    · exact Or.inl (Except.error.inj h).symm

theorem EndsInDigits.ne_nil {digits core : List CodePoint} (h : EndsInDigits digits core) :
    digits ≠ [] := by
  cases h with
  | size first rest hink hne hsigns => exact hne
  | width word hword hne hdecimal => exact hne

/-- A signature is refused over digits that are no number, or the fault shows what is left. -/
theorem refusal_of_readOuter {outer : List (Option Nat)} {s : List CodePoint} {fault : Fault}
    (h : readOuter outer s = .error fault) :
    (∃ digits, ComesTo digits s ∧ ¬IsNumber digits ∧ ∃ why, fault = .numeral why) ∨
      ∃ shown, ShowsBeginning s shown fault := by
  fun_induction readOuter outer s with
  | case1 outer s hnone =>
    obtain ⟨before, after, hbefore, hafter, hs⟩ := Text.exists_eq_append_strip s
    rcases Base.refusal_of_read (map_eq_error_iff.mp h) with rfl | ⟨digits, hdigits, hread⟩
    · exact Or.inr ⟨_, showsBeginning_strip s⟩
    · refine Or.inl ⟨digits, ?_, not_isNumber_of_readWidth hdigits.ne_nil hread⟩
      rw [hs]
      exact hdigits.comesTo hbefore hafter
  | case2 outer s front size hsplit hempty =>
    obtain rfl := Except.error.inj h
    exact Or.inr ⟨_, showsBeginning_strip s⟩
  | case3 outer s front size hsplit hempty fault' hsize =>
    obtain rfl := Except.error.inj h
    obtain ⟨before, after, hbefore, hafter, hs⟩ := Text.exists_eq_append_strip s
    have hstrip := eq_append_of_splitDimension? (by simpa using hempty) hsplit
    obtain ⟨first, rest, rfl⟩ := List.exists_cons_of_ne_nil (l := front) (by simpa using hempty)
    rcases refusal_of_readSize hsize with rfl | ⟨hne, hsigns, hread⟩
    · exact Or.inr ⟨_, showsBeginning_strip s⟩
    · have hink := Text.isBlank_of_strip_eq_cons hstrip
      refine Or.inl ⟨size, ?_, not_isNumber_of_readWidth hne hread⟩
      rw [hs, hstrip]
      exact (EndsInDigits.size first rest hink hne hsigns).comesTo hbefore hafter
  | case4 outer s front size hsplit hempty n hn hlt ih =>
    obtain ⟨before, after, hbefore, hafter, hs⟩ := Text.exists_eq_append_strip s
    have hne : front ≠ [] := by simpa using hempty
    have hstrip := eq_append_of_splitDimension? hne hsplit
    obtain ⟨d, rfl, rfl⟩ := readSize_eq_ok_iff.mp hn
    rcases ih h with ⟨digits, hcomes, hrest⟩ | ⟨shown, hshown⟩
    · refine Or.inl ⟨digits, ?_, hrest⟩
      rw [hs, hstrip]
      exact hcomes.of_front d hbefore hafter
    · exact Or.inr ⟨shown, hshown.of_front hne hstrip⟩

theorem readOuter_of_comesTo {digits s : List CodePoint} (h : ComesTo digits s)
    (hnumber : ¬IsNumber digits) (outer : List (Option Nat)) :
    ∃ why, readOuter outer s = .error (.numeral why) := by
  obtain ⟨lead, trail, core, dimensions, hcore, rfl⟩ := h
  obtain ⟨why, hread⟩ := exists_readWidth_of_not_isNumber hnumber
  refine ⟨why, ?_⟩
  cases hcore with
  | size first rest hink hne hsigns =>
    have hcore : first :: (rest ++ .char '[' :: (digits ++ [.char ']']))
        = (first :: rest) ++ .char '[' :: (digits ++ [.char ']']) := rfl
    have hlast : (first :: rest) ++ .char '[' :: (digits ++ [.char ']'])
        = ((first :: rest) ++ .char '[' :: digits) ++ [.char ']'] := by simp
    have hstrip := Text.strip_eq_self hcore.symm hlast hink (by decide)
    have hsize : ∀ shown, readSize shown digits = .error (.numeral why) := by
      intro shown
      rw [readSize, if_neg (by simpa using hne), if_pos (List.all_eq_true.mpr hsigns)]
      exact map_eq_error_iff.mpr hread
    rw [readOuter_dimensions outer rfl hink, hcore, readOuter_eq, hstrip,
      splitDimension?_append _ hsigns]
    simp [hsize]
  | width word hword hne hdecimal =>
    have hwords : ∀ word ∈ wordsWithDigits,
        Text.toList word ≠ [] ∧ ((Text.toList word).all fun c ↦ !Text.isBlank c) = true := by
      decide
    obtain ⟨first, rest, hfirst⟩ := List.exists_cons_of_ne_nil (hwords word hword).1
    have hink : Text.isBlank first = false := by
      have hall := List.all_eq_true.mp (hwords word hword).2 first (by simp [hfirst])
      simpa using hall
    have hcore : Text.toList word ++ digits = first :: (rest ++ digits) := by
      rw [hfirst, List.cons_append]
    have hlast : Text.toList word ++ digits
        = (Text.toList word ++ digits.dropLast) ++ [digits.getLast hne] := by
      rw [List.append_assoc, List.dropLast_concat_getLast]
    have hdigit := hdecimal _ (List.getLast_mem hne)
    have hbracket : digits.getLast hne ≠ .char ']' := by
      intro heq
      rw [heq] at hdigit
      exact absurd hdigit (by decide)
    rw [readOuter_dimensions outer hcore hink,
      readOuter_base hcore hlast hink (Text.isBlank_of_isDecimalDigit hdigit) hbracket]
    exact map_eq_error_iff.mpr (Base.read_word_append hword hne hdecimal hread)

end Signature

/-! ## Types -/

namespace EvmType

open Signature

theorem read_null_eq_error_iff {raw : Json} {fault : Fault} :
    read raw .null = .error fault ↔ signature raw = .error fault := by
  cases hread : signature raw with
  | ok sig =>
    have hnone : readTuple (Json.null.orElse (.arr [])) = .ok [] := readTuple_of_truthy_eq_false rfl
    rw [read_of_signature hread, hnone, ite_self]
    exact iff_of_false nofun nofun
  | error other =>
    rw [read_of_signature_error hread, Except.error.injEq, Except.error.injEq]

/-- **Refused types.** A type that is refused without components is unknown, and the fault shows a
beginning of its text, unless it is the fault of a number. That is the fault exactly if reading
comes to digits that are no number: some of them are digit signs without a value, or they are too
many. -/
theorem read_refused (s : Text) :
    (∀ fault, read (.str s) .null = .error fault →
      (∃ why, fault = .numeral why) ∨ ∃ shown, ShowsBeginning s.toList shown fault) ∧
    ((∃ why, read (.str s) .null = .error (.numeral why)) ↔
      ∃ digits, ComesTo digits s.toList ∧
        ¬((∀ c ∈ digits, Text.isDecimalDigit c = true) ∧ digits.length ≤ Text.digitLimit)) := by
  constructor
  · intro fault h
    rcases refusal_of_readOuter (read_null_eq_error_iff.mp h) with ⟨-, -, -, hwhy⟩ | hshown
    · exact Or.inl hwhy
    · exact Or.inr hshown
  · constructor
    · rintro ⟨why, h⟩
      rcases refusal_of_readOuter (read_null_eq_error_iff.mp h) with
        ⟨digits, hcomes, hnumber, -⟩ | ⟨shown, hshown⟩
      · exact ⟨digits, hcomes, mt isNumber_iff.mpr hnumber⟩
      · exact absurd hshown (not_showsBeginning_numeral _ _ why)
    · rintro ⟨digits, hcomes, hnumber⟩
      obtain ⟨why, h⟩ := readOuter_of_comesTo hcomes (mt isNumber_iff.mp hnumber) []
      exact ⟨why, read_null_eq_error_iff.mpr h⟩

/-- A word that is no base is shown without the dimension behind it. -/
theorem read_refused_coin :
    read (.str " coin[3]") .null = .error (.unknownType "coin") ∧
    ∃ shown, ShowsBeginning (Text.toList " coin[3]") shown (.unknownType "coin") := by
  have hread : read (.str " coin[3]") .null = .error (.unknownType "coin") := by
    have hstrip : Text.strip (Text.toList " coin[3]") = Text.toList "coin[3]" := by decide
    have hsplit : splitDimension? (Text.toList "coin[3]")
        = some (Text.toList "coin", [.char '3']) := by decide
    have hsize : readSize (Text.toList "coin[3]") ['3'] = .ok (some 3) := by rfl
    have hleft : Text.strip (Text.toList "coin") = Text.toList "coin" := by decide
    have hnone : splitDimension? (Text.strip (Text.toList "coin")) = none := by decide
    have hbase : Base.read (Text.toList "coin") = .error (.unknownType "coin") := by rfl
    have hcoin : readOuter [some 3] (Text.toList "coin") = .error (.unknownType "coin") := by
      rw [readOuter_of_none hnone, hleft, hbase]
      rfl
    rw [read_null_eq_error_iff, signature, Signature.read, readOuter_eq, hstrip, hsplit]
    simp only [hsize, hcoin]
    rfl
  rcases (read_refused " coin[3]").1 _ hread with ⟨why, hwhy⟩ | hshown
  · cases hwhy
  · exact ⟨hread, hshown⟩

/-- A superscript is a digit sign, so it is handed over as a size, and it is no number. -/
theorem read_refused_superscript :
    read (.str "uint8[²]") .null = .error (.numeral (.malformed ['²'])) ∧
    ¬∃ shown, ShowsBeginning (Text.toList "uint8[²]") shown (.numeral (.malformed ['²'])) := by
  constructor
  · have hstrip : Text.strip (Text.toList "uint8[²]") = Text.toList "uint8[²]" := by decide
    have hsplit : splitDimension? (Text.toList "uint8[²]")
        = some (Text.toList "uint8", [.char '²']) := by decide
    have hsize : readSize (Text.toList "uint8[²]") ['²']
        = .error (.numeral (.malformed ['²'])) := by rfl
    rw [read_null_eq_error_iff, signature, Signature.read, readOuter_eq, hstrip, hsplit]
    simp only [hsize]
    rfl
  · rintro ⟨shown, hshown⟩
    exact not_showsBeginning_numeral _ _ _ hshown

end EvmType

end AbiTypings
