import AbiTypings.Proofs.Contract.ClassName

/-!
# What class names are made of

A class name is never empty. Apart from that, each step of deriving one can undo what an earlier one
is there for. Digits in front are dropped before other characters are, so a digit behind dropped
characters comes to stand in front (`BaresDigit`). And the first letter is put in upper case last:
twenty-six letters have an upper-case form of letters and combining marks, and marks are no word
characters (`Text.markedLetters`). By `className_characters`, there is no other way for a class name
to start with a digit or to have a character in it that is no word character.

The tables of upper-case forms and of word characters are compared run by run: a run of letters is
shifted into a single range of word characters, or it has none to start with. Only two runs have
word characters beside others, and they are checked letter by letter.
-/

namespace AbiTypings

namespace Text

/-! ## Ranges of word characters -/

/-- Whether a range of code points lies in one of the ranges of word characters. -/
def isWordRange (first last : Nat) : Bool := wordRanges.any fun r ↦ r.1.ble first && last.ble r.2

/-- Whether a range of code points has no decimal digits in it. -/
def hasNoDigits (first last : Nat) : Bool := zeroDigits.all fun z ↦ last.blt z || (z + 9).blt first

theorem inRanges_of_isWordRange {first last n : Nat} (h : isWordRange first last = true)
    (hfirst : first ≤ n) (hlast : n ≤ last) : inRanges wordRanges n = true := by
  obtain ⟨r, hr, hrange⟩ := List.any_eq_true.mp h
  rw [Bool.and_eq_true, Nat.ble_eq, Nat.ble_eq] at hrange
  refine (inRanges_iff wordRanges n).mpr ⟨r, hr, ?_, ?_⟩
  · exact Nat.le_trans hrange.1 hfirst
  · exact Nat.le_trans hlast hrange.2

theorem isDecimalDigit_iff {c : Char} :
    isDecimalDigit c = true ↔ ∃ z ∈ zeroDigits, z ≤ c.toNat ∧ c.toNat ≤ z + 9 := by
  simp only [isDecimalDigit, decimalDigit?, Option.isSome_map, List.find?_isSome,
    Bool.and_eq_true, decide_eq_true_eq]
  rfl

theorem not_isDecimalDigit_of_hasNoDigits {first last : Nat} {c : Char}
    (h : hasNoDigits first last = true) (hfirst : first ≤ c.toNat) (hlast : c.toNat ≤ last) :
    isDecimalDigit c = false := by
  rw [← Bool.not_eq_true, isDecimalDigit_iff]
  rintro ⟨z, hz, hlow, hhigh⟩
  have hapart := List.all_eq_true.mp h z hz
  simp only [Bool.or_eq_true, Nat.blt_eq] at hapart
  omega

theorem isWord_of_isDecimalDigit {c : Char} (h : isDecimalDigit c = true) : isWord c = true := by
  have hscripts : ∀ z ∈ zeroDigits, isWordRange z (z + 9) = true := by
    decide +kernel
  obtain ⟨z, hz, hfirst, hlast⟩ := isDecimalDigit_iff.mp h
  exact inRanges_of_isWordRange (hscripts z hz) hfirst hlast

theorem toNat_ofNat_of_inRanges {n : Nat} (h : inRanges wordRanges n = true) :
    (Char.ofNat n).toNat = n := by
  have hvalid : ∀ r ∈ wordRanges, r.2 < 0xD800 ∨ (0xDFFF < r.1 ∧ r.2 < 0x110000) := by
    decide +kernel
  obtain ⟨r, hr, hfirst, hlast⟩ := (inRanges_iff wordRanges n).mp h
  refine toNat_ofNat_of_isValidChar ?_
  rw [Nat.isValidChar]
  have hrange := hvalid r hr
  omega

/-! ## Upper-case forms of word characters -/

/-- Code points of the combining marks in upper-case forms. -/
def combiningMarks : List Nat := [0x300, 0x301, 0x308, 0x30A, 0x30C, 0x313, 0x331, 0x342]

/-- Code points of the letters with a combining mark in their upper-case form. -/
def markedLetters : List Nat :=
  [0x1F0, 0x390, 0x3B0, 0x1E96, 0x1E97, 0x1E98, 0x1E99, 0x1F50, 0x1F52, 0x1F54, 0x1F56, 0x1FB6,
   0x1FB7, 0x1FC6, 0x1FC7, 0x1FD2, 0x1FD3, 0x1FD6, 0x1FD7, 0x1FE2, 0x1FE3, 0x1FE4, 0x1FE6, 0x1FE7,
   0x1FF6, 0x1FF7]

/-- What is known of the upper-case form of a word character. -/
structure UpperWord (c : Char) (form : List Char) : Prop where
  /-- It has characters, and the first one is a digit only if the word character is. -/
  first : ∃ x ∈ form.head?, isDecimalDigit x = isDecimalDigit c
  /-- Its characters are word characters and combining marks. -/
  word : ∀ x ∈ form, isWord x = true ∨ x.toNat ∈ combiningMarks
  /-- It has combining marks only if the word character is one of those letters. -/
  marked : (∀ x ∈ form, isWord x = true) ↔ c.toNat ∉ markedLetters

theorem mem_caseExpansions_of_mem_markedLetters :
    ∀ n ∈ markedLetters, ∃ e ∈ caseExpansions, e.1 = n := by
  decide +kernel

theorem caseExpansions_words : ∀ e ∈ caseExpansions,
    (e.2.all fun n ↦ isWord (Char.ofNat n)) = decide (e.1 ∉ markedLetters) := by
  decide +kernel

theorem caseExpansions_marks : ∀ e ∈ caseExpansions, e.1 ∈ markedLetters →
    ∀ n ∈ e.2, isWord (Char.ofNat n) = true ∨ (Char.ofNat n).toNat ∈ combiningMarks := by
  decide +kernel

theorem caseExpansions_digits : ∀ e ∈ caseExpansions, hasNoDigits e.1 e.1 = true ∧
    ∃ n ∈ e.2.head?, isDecimalDigit (Char.ofNat n) = false := by
  decide +kernel

theorem upperWord_of_mem_caseExpansions {c : Char} {form : List Nat}
    (h : (c.toNat, form) ∈ caseExpansions) : UpperWord c (form.map Char.ofNat) := by
  have hwords := caseExpansions_words _ h
  obtain ⟨hdigit, n, hn, hfirst⟩ := caseExpansions_digits _ h
  have hmarked : (∀ x ∈ form.map Char.ofNat, isWord x = true) ↔ c.toNat ∉ markedLetters := by
    rw [List.forall_mem_map, ← List.all_eq_true, hwords, decide_eq_true_iff]
  refine ⟨⟨Char.ofNat n, ?_, ?_⟩, fun x hx ↦ ?_, hmarked⟩
  · rw [List.head?_map, hn]
    rfl
  · rw [hfirst, not_isDecimalDigit_of_hasNoDigits hdigit (Nat.le_refl _) (Nat.le_refl _)]
  · by_cases hletter : c.toNat ∈ markedLetters
    · obtain ⟨m, hm, rfl⟩ := List.mem_map.mp hx
      exact caseExpansions_marks _ h hletter m hm
    · exact Or.inl (hmarked.mpr hletter x hx)

/-- Letters without a form of several characters have no marks in their form. -/
theorem upperWord_singleton {c x : Char} (hform : caseExpansions.find? (·.1 == c.toNat) = none)
    (hx : isWord x = true) (hdigit : isDecimalDigit x = isDecimalDigit c) : UpperWord c [x] := by
  have hletter : c.toNat ∉ markedLetters := by
    intro hmarked
    obtain ⟨e, he, hkey⟩ := mem_caseExpansions_of_mem_markedLetters _ hmarked
    have hother := List.find?_eq_none.mp hform e he
    simp [hkey] at hother
  refine ⟨⟨x, rfl, hdigit⟩, ?_, ?_⟩
  · simp [hx]
  · simp [hx, hletter]

theorem caseRuns_words : ∀ r ∈ caseRuns,
    isWordRange (r.first + r.shift).toNat (r.last + r.shift).toNat = true ∨
    (wordRanges.all fun w ↦ r.last.blt w.1 || w.2.blt r.first) = true ∨
    ∀ k ≤ (r.last - r.first) / r.step,
      inRanges wordRanges (r.first + r.step * k + r.shift).toNat = true := by
  decide +kernel

theorem caseRuns_digits : ∀ r ∈ caseRuns, 0 ≤ r.first + r.shift ∧
    hasNoDigits r.first r.last = true ∧
    hasNoDigits (r.first + r.shift).toNat (r.last + r.shift).toNat = true := by
  decide +kernel

theorem inRanges_of_mem_caseRuns {r : CaseRun} {n : Nat} (h : r ∈ caseRuns)
    (hn : r.contains n = true) (hword : inRanges wordRanges n = true) :
    inRanges wordRanges (n + r.shift).toNat = true := by
  simp only [CaseRun.contains, Bool.and_eq_true, decide_eq_true_eq, beq_iff_eq] at hn
  obtain ⟨⟨hfirst, hlast⟩, hstep⟩ := hn
  rcases caseRuns_words r h with hrange | hnone | hsteps
  · exact inRanges_of_isWordRange hrange (by omega) (by omega)
  · obtain ⟨w, hw, hlow, hhigh⟩ := (inRanges_iff wordRanges n).mp hword
    have hapart := List.all_eq_true.mp hnone w hw
    simp only [Bool.or_eq_true, Nat.blt_eq] at hapart
    omega
  · have hplace := Nat.mul_div_cancel' (Nat.dvd_of_mod_eq_zero hstep)
    have hk := hsteps ((n - r.first) / r.step) (Nat.div_le_div_right (by omega))
    have hcode : ((r.first : Int) + r.step * ((n - r.first) / r.step : Nat)) = n := by
      rw [← Int.natCast_mul, hplace]
      omega
    rwa [hcode] at hk

theorem upperWord {c : Char} (h : isWord c = true) : UpperWord c (upperCase c) := by
  rw [upperCase]
  split
  · next code form hform =>
    have hkey := List.find?_some hform
    have hcode : code = c.toNat := by simpa using hkey
    rw [hcode] at hform
    exact upperWord_of_mem_caseExpansions (List.mem_of_find?_eq_some hform)
  · next hform =>
    split
    · next r hr =>
      have hmem := List.mem_of_find?_eq_some hr
      have hcontains := List.find?_some hr
      have hword := inRanges_of_mem_caseRuns hmem hcontains h
      have hcode := toNat_ofNat_of_inRanges hword
      simp only [CaseRun.contains, Bool.and_eq_true, decide_eq_true_eq] at hcontains
      obtain ⟨⟨hfirst, hlast⟩, -⟩ := hcontains
      obtain ⟨hbase, hsource, htarget⟩ := caseRuns_digits r hmem
      refine upperWord_singleton hform ?_ ?_
      · rwa [isWord, CodePoint.toNat, hcode]
      · rw [not_isDecimalDigit_of_hasNoDigits hsource hfirst hlast]
        refine not_isDecimalDigit_of_hasNoDigits htarget ?_ ?_ <;> rw [hcode] <;> omega
    · exact upperWord_singleton hform h rfl

end Text

open Text

/-! ## Digits in front -/

/-- A digit stands behind characters that are dropped, and nothing that is kept stands before it. -/
def BaresDigit (raw : List Char) : Prop :=
  ∃ (digits others : List Char) (d : Char) (rest : List Char),
    raw = digits ++ others ++ d :: rest ∧
    (∀ c ∈ digits, isDecimalDigit c = true) ∧ others ≠ [] ∧
    (∀ c ∈ others, isWord c = false ∧ c ≠ ' ') ∧ isDecimalDigit d = true

/-- A character of a stem with an underscore in place of a blank. -/
private def unblanked (c : Char) : Char := if c = ' ' then '_' else c

private def isStemDigit (c : Char) : Bool := isDecimalDigit c

private def isStemWord (c : Char) : Bool := isWord c

private theorem isDecimalDigit_unblanked (c : Char) :
    isDecimalDigit (unblanked c) = isDecimalDigit c := by
  rw [unblanked]
  split
  · next h =>
    rw [h]
    decide +kernel
  · rfl

private theorem isWord_unblanked (c : Char) :
    isWord (unblanked c) = false ↔ isWord c = false ∧ c ≠ ' ' := by
  rw [unblanked]
  split
  · next h =>
    have hunderscore : isWord '_' = true := by decide +kernel
    simp [h, hunderscore]
  · next h => simp [h]

private theorem classNameChars_eq (raw : List Char) :
    classNameChars raw
      = ((raw.dropWhile isStemDigit).map unblanked).filter isStemWord := by
  have hdigit : isStemDigit ∘ unblanked = isStemDigit := funext isDecimalDigit_unblanked
  have hdrop : (raw.map unblanked).dropWhile isStemDigit
      = (raw.dropWhile isStemDigit).map unblanked := by
    rw [List.dropWhile_map, hdigit]
  rw [← hdrop]
  rfl

theorem baresDigit_of_head {raw : List Char} {c : Char} (hc : c ∈ (classNameChars raw).head?)
    (hdigit : isDecimalDigit c = true) : BaresDigit raw := by
  rw [classNameChars_eq] at hc
  obtain ⟨tail, htail⟩ := List.head?_eq_some_iff.mp hc
  obtain ⟨before, after, hsplit, hbefore, -, -⟩ := List.filter_eq_cons_iff.mp htail
  obtain ⟨others, kept, hraw, rfl, hkept⟩ := List.map_eq_append_iff.mp hsplit
  obtain ⟨d, rest, rfl, rfl, -⟩ := List.map_eq_cons_iff.mp hkept
  rw [isDecimalDigit_unblanked] at hdigit
  -- Digits in front are dropped, so something else has to stand between them and this one.
  have hne : others ≠ [] := by
    rintro rfl
    have hfirst := List.head?_dropWhile_not isStemDigit raw
    simp [hraw, isStemDigit, hdigit] at hfirst
  refine ⟨raw.takeWhile isStemDigit, others, d, rest, ?_, ?_, hne, ?_, hdigit⟩
  · rw [List.append_assoc, ← hraw, List.takeWhile_append_dropWhile]
  · intro x hx
    exact List.all_eq_true.mp List.all_takeWhile x hx
  · intro x hx
    rw [← isWord_unblanked, ← Bool.not_eq_true]
    exact hbefore _ (List.mem_map_of_mem hx)

theorem BaresDigit.exists_head {raw : List Char} (h : BaresDigit raw) :
    ∃ c ∈ (classNameChars raw).head?, isDecimalDigit c = true := by
  obtain ⟨digits, others, d, rest, rfl, hdigits, hne, hothers, hd⟩ := h
  have hdropped : ∀ x ∈ others.map unblanked, ¬isStemWord x = true := by
    intro x hx
    obtain ⟨o, ho, rfl⟩ := List.mem_map.mp hx
    simp [isStemWord, (isWord_unblanked o).mpr (hothers o ho)]
  have hword : isStemWord (unblanked d) = true :=
    isWord_of_isDecimalDigit (by rwa [isDecimalDigit_unblanked])
  obtain ⟨o, os, rfl⟩ := List.exists_cons_of_ne_nil hne
  have hstop : ¬isStemDigit o = true := by
    intro hdigit
    have hother := (hothers o List.mem_cons_self).1
    rw [isWord_of_isDecimalDigit hdigit] at hother
    exact Bool.noConfusion hother
  rw [classNameChars_eq, List.append_assoc,
    List.dropWhile_append_of_pos (p := isStemDigit) hdigits, List.cons_append,
    List.dropWhile_cons_of_neg hstop, ← List.cons_append, List.map_append, List.filter_append,
    List.filter_eq_nil_iff.mpr hdropped, List.nil_append, List.map_cons,
    List.filter_cons_of_pos hword]
  exact ⟨unblanked d, rfl, by rwa [isDecimalDigit_unblanked]⟩

/-- What is left of a stem starts with a digit exactly if a digit is laid bare. -/
theorem isDecimalDigit_head_iff (raw : List Char) :
    (∃ c ∈ (classNameChars raw).head?, isDecimalDigit c = true) ↔ BaresDigit raw := by
  constructor
  · rintro ⟨c, hc, hdigit⟩
    exact baresDigit_of_head hc hdigit
  · exact BaresDigit.exists_head

/-! ## Class names -/

/-- **The characters of a class name.** A class name is not empty, and it has no other characters
than word characters and combining marks. It has marks exactly if the first letter that its stem
leaves has them in its upper-case form, and it starts with a digit exactly if its stem lays one
bare. -/
theorem className_characters {raw name : String} (h : className raw = .ok name) :
    name ≠ "" ∧
    (∀ x ∈ name.toList, isWord x = true ∨ x.toNat ∈ combiningMarks) ∧
    ((∀ x ∈ name.toList, isWord x = true) ↔
      ∀ c ∈ (classNameChars raw.toList).head?, c.toNat ∉ markedLetters) ∧
    ((∃ x ∈ name.toList.head?, isDecimalDigit x = true) ↔ BaresDigit raw.toList) := by
  obtain ⟨c, rest, hchars, hname⟩ := toList_of_className h
  have hkept : ∀ d ∈ c :: rest, isWord d = true := by
    intro d hd
    rw [← hchars, classNameChars] at hd
    exact (List.mem_filter.mp hd).2
  obtain ⟨hc, hrest⟩ := List.forall_mem_cons.mp hkept
  obtain ⟨⟨x, hx, hdigit⟩, hform, hmarked⟩ := upperWord hc
  have hhead : name.toList.head? = some x := by
    rw [hname, List.head?_append, hx]
    rfl
  refine ⟨?_, ?_, ?_, ?_⟩
  · rintro rfl
    cases hhead
  · intro y hy
    rw [hname, List.mem_append] at hy
    rcases hy with hy | hy
    · exact hform y hy
    · exact Or.inl (hrest y hy)
  · rw [hname, List.forall_mem_append, and_iff_left hrest, hmarked, hchars]
    simp
  · rw [← isDecimalDigit_head_iff, hchars, hhead]
    simp [hdigit]

theorem className_characters_inch :
    className "1inch v2" = .ok "Inch_v2" ∧ (∀ x ∈ "Inch_v2".toList, isWord x = true) ∧
      ¬BaresDigit "1inch v2".toList := by
  have hname : className "1inch v2" = .ok "Inch_v2" := by rfl
  obtain ⟨-, -, hword, hdigit⟩ := className_characters hname
  have hchars : classNameChars "1inch v2".toList = "inch_v2".toList := by rfl
  refine ⟨hname, hword.mpr ?_, fun hbares ↦ ?_⟩
  · intro c hc
    rw [hchars] at hc
    obtain rfl : 'i' = c := by simpa using hc
    decide +kernel
  · obtain ⟨x, hx, hfirst⟩ := hdigit.mpr hbares
    obtain rfl : 'I' = x := by simpa using hx
    exact absurd hfirst (by decide +kernel)

/-- Two stems whose class names are no names: the dash is dropped after the digits in front, and the
letter with a caron has the caron beside it in upper case. -/
theorem className_dash :
    className "-1x" = .ok "1x" ∧ isDecimalDigit '1' = true ∧
    className "\u01f0" = .ok "J\u030c" ∧ isWord '\u030c' = false := by
  refine ⟨?_, by decide +kernel, rfl, by decide +kernel⟩
  have hchars : classNameChars "-1x".toList = ['1', 'x'] := by decide +kernel
  rw [className_of_chars hchars, upperCase_of_ascii (by decide)]
  rfl

end AbiTypings
