import AbiTypings.Contract.ClassName
import AbiTypings.Files.Path

/-!
# The characters of class names

A class name is what its stem leaves, with the first character in upper case. Upper-case forms can
be longer than what they stand for, and can lie elsewhere in the code table: that of the dotless `i`
is a letter of ASCII. `Text.upperForm` says once what they can be.

Two things follow for class names. Of ASCII they have letters, digits and underscores only
(`isWordOrBeyond_of_mem_className`), so nothing that separates or quotes gets into them from a stem.
And a name that starts with a capital and goes on in lower case is the class name of no other stems
than those that leave this name, with its first letter in either case (`className_eq_iff`).
-/

namespace AbiTypings

namespace Text

/-! ## Upper-case forms -/

/-- A letter, a digit or the underscore of ASCII, or any character beyond. -/
def isWordOrBeyond (c : Char) : Bool := c.isAlphanum || c == '_' || decide (128 ≤ c.toNat)

/-- A capital letter of ASCII, or any character beyond. -/
def isCapitalOrBeyond (c : Char) : Bool := c.isUpper || decide (128 ≤ c.toNat)

theorem toNat_ofNat_of_isValidChar {n : Nat} (h : n.isValidChar) : (Char.ofNat n).toNat = n := by
  rw [Char.ofNat, dif_pos h]
  rfl

/-- A statement about ASCII characters is a statement about their codes. -/
theorem forall_ascii {p : Char → Prop} (h : ∀ n < 128, p (Char.ofNat n)) {c : Char}
    (hc : c.toNat < 128) : p c := by
  have hcode := h c.toNat hc
  rwa [Char.ofNat_toNat] at hcode

theorem code_of_isUpper {c : Char} (h : c.isUpper = true) : c.toNat < 128 := by
  have hbounds : c.val ≥ 'A'.val ∧ c.val ≤ 'Z'.val := of_decide_eq_true h
  exact Nat.lt_of_le_of_lt (UInt32.le_iff_toNat_le.mp hbounds.2) (by decide)

theorem code_of_isLower {c : Char} (h : c.isLower = true) : c.toNat < 128 := by
  have hbounds : c.val ≥ 'a'.val ∧ c.val ≤ 'z'.val := Bool.and_eq_true_iff.mp h |>.imp
    of_decide_eq_true of_decide_eq_true
  exact Nat.lt_of_le_of_lt (UInt32.le_iff_toNat_le.mp hbounds.2) (by decide)

theorem code_of_isDigit {c : Char} (h : c.isDigit = true) : c.toNat < 128 := by
  have hbounds : c.val ≥ '0'.val ∧ c.val ≤ '9'.val := by simpa [Char.isDigit] using h
  exact Nat.lt_of_le_of_lt (UInt32.le_iff_toNat_le.mp hbounds.2) (by decide)

theorem code_of_isAlphanum {c : Char} (h : c.isAlphanum = true) : c.toNat < 128 := by
  have hclasses : ((c.isUpper || c.isLower) || c.isDigit) = true := h
  rw [Bool.or_eq_true, Bool.or_eq_true] at hclasses
  rcases hclasses with (hupper | hlower) | hdigit
  · exact code_of_isUpper hupper
  · exact code_of_isLower hlower
  · exact code_of_isDigit hdigit

/-- The run of the letters of ASCII. -/
def asciiRun : CaseRun := ⟨0x61, 0x7A, 1, -32⟩

theorem find?_caseExpansions_of_ascii {c : Char} (hc : c.toNat < 128) :
    caseExpansions.find? (·.1 == c.toNat) = none := by
  have hkeys : ∀ e ∈ caseExpansions, 128 ≤ e.1 := by decide +kernel
  rw [List.find?_eq_none]
  intro e he hcode
  have hkey := hkeys e he
  rw [eq_of_beq hcode] at hkey
  omega

theorem find?_caseRuns_of_ascii {c : Char} (hc : c.toNat < 128) :
    caseRuns.find? (·.contains c.toNat)
      = if asciiRun.contains c.toNat then some asciiRun else none := by
  have hruns : ∀ r ∈ caseRuns.tail, 128 ≤ r.first := by decide +kernel
  have htail : caseRuns.tail.find? (·.contains c.toNat) = none := by
    rw [List.find?_eq_none]
    intro r hr hcontains
    have hfirst := hruns r hr
    simp only [CaseRun.contains, Bool.and_eq_true, decide_eq_true_eq] at hcontains
    omega
  rw [show caseRuns = asciiRun :: caseRuns.tail from rfl, List.find?_cons, htail]
  cases asciiRun.contains c.toNat <;> rfl

theorem upperCase_of_ascii {c : Char} (hc : c.toNat < 128) : upperCase c = [c.toUpper] := by
  have hshift : (if asciiRun.contains c.toNat then
      [Char.ofNat (c.toNat + asciiRun.shift).toNat] else [c]) = [c.toUpper] :=
    forall_ascii (p := fun c ↦ (if asciiRun.contains c.toNat then
      [Char.ofNat (c.toNat + asciiRun.shift).toNat] else [c]) = [c.toUpper])
      (by decide +kernel) hc
  rw [upperCase, find?_caseExpansions_of_ascii hc, find?_caseRuns_of_ascii hc, ← hshift]
  by_cases hcontains : asciiRun.contains c.toNat = true
  · rw [if_pos hcontains, if_pos hcontains]
  · rw [if_neg hcontains, if_neg hcontains]

/-- What the upper-case form of a character can be. -/
inductive UpperForm (c : Char) : List Char → Prop where
  /-- ASCII characters have theirs in ASCII. -/
  | ascii (code : c.toNat < 128) : UpperForm c [c.toUpper]
  /-- A single character beyond ASCII. -/
  | beyond {d : Char} (code : 128 ≤ d.toNat) : UpperForm c [d]
  /-- The form of a dotless `i`. -/
  | dotless : UpperForm c ['I']
  /-- The form of a long `s`. -/
  | long : UpperForm c ['S']
  /-- The form of a ligature or of a letter with marks. -/
  | several {d e : Char} {form : List Char}
      (capital : ∀ x ∈ d :: e :: form, isCapitalOrBeyond x = true) : UpperForm c (d :: e :: form)

theorem capital_of_mem_caseExpansions : ∀ e ∈ caseExpansions, 2 ≤ e.2.length ∧
    ∀ n ∈ e.2, isCapitalOrBeyond (Char.ofNat n) = true := by
  decide +kernel

/-- Beyond ASCII, only two letters have a form in ASCII. -/
theorem caseRuns_cases : ∀ r ∈ caseRuns, r.last < 128 ∨
    (r.first = r.last ∧ (r.first + r.shift = 0x49 ∨ r.first + r.shift = 0x53)) ∨
    (128 ≤ r.first + r.shift ∧ (r.last + r.shift < 0xD800 ∨
      (0xDFFF < r.first + r.shift ∧ r.last + r.shift < 0x110000))) := by
  decide +kernel

theorem upperForm (c : Char) : UpperForm c (upperCase c) := by
  by_cases hc : c.toNat < 128
  · rw [upperCase_of_ascii hc]
    exact .ascii hc
  · rw [upperCase]
    split
    · next code form hform =>
      obtain ⟨hlength, hcapital⟩ :=
        capital_of_mem_caseExpansions _ (List.mem_of_find?_eq_some hform)
      match form, hlength with
      | m :: n :: codes, _ =>
        refine .several fun x hx ↦ ?_
        have hmap : x ∈ (m :: n :: codes).map Char.ofNat := hx
        obtain ⟨k, hk, rfl⟩ := List.mem_map.mp hmap
        exact hcapital k hk
    · split
      · next r hr =>
        have hcontains := List.find?_some hr
        simp only [CaseRun.contains, Bool.and_eq_true, decide_eq_true_eq] at hcontains
        obtain ⟨⟨hfirst, hlast⟩, -⟩ := hcontains
        rcases caseRuns_cases r (List.mem_of_find?_eq_some hr) with
          hascii | ⟨hone, hI | hS⟩ | ⟨hbeyond, hvalid⟩
        · omega
        · rw [show c.toNat + r.shift = 0x49 by omega]
          exact .dotless
        · rw [show c.toNat + r.shift = 0x53 by omega]
          exact .long
        · refine .beyond ?_
          rw [toNat_ofNat_of_isValidChar]
          · omega
          · rw [Nat.isValidChar]
            omega
      · exact .beyond (Nat.le_of_not_lt hc)

/-! ## Characters of names -/

theorem isWordOrBeyond_of_le {c : Char} (h : 128 ≤ c.toNat) : isWordOrBeyond c = true := by
  rw [isWordOrBeyond, decide_eq_true h, Bool.or_true]

theorem isWordOrBeyond_of_isWord {c : Char} (h : isWord c = true) : isWordOrBeyond c = true := by
  have hranges : ∀ r ∈ wordRanges, 128 ≤ r.1 ∨
      ∀ n < 128, r.1 ≤ n → n ≤ r.2 → isWordOrBeyond (Char.ofNat n) = true := by
    decide +kernel
  by_cases hc : c.toNat < 128
  · obtain ⟨r, hr, hfirst, hlast⟩ := (inRanges_iff wordRanges c.toNat).mp h
    rcases hranges r hr with hbeyond | hascii
    · omega
    · have hcode := hascii c.toNat hc hfirst hlast
      rwa [Char.ofNat_toNat] at hcode
  · exact isWordOrBeyond_of_le (Nat.le_of_not_lt hc)

theorem isWordOrBeyond_of_isCapitalOrBeyond {c : Char} (h : isCapitalOrBeyond c = true) :
    isWordOrBeyond c = true := by
  rw [isCapitalOrBeyond, Bool.or_eq_true] at h
  rcases h with hupper | hbeyond
  · exact forall_ascii (p := fun c ↦ c.isUpper = true → isWordOrBeyond c = true)
      (by decide +kernel) (code_of_isUpper hupper) hupper
  · exact isWordOrBeyond_of_le (of_decide_eq_true hbeyond)

theorem isWordOrBeyond_toUpper {c : Char} (hcode : c.toNat < 128)
    (hc : isWordOrBeyond c = true) : isWordOrBeyond c.toUpper = true :=
  forall_ascii (p := fun c ↦ isWordOrBeyond c = true → isWordOrBeyond c.toUpper = true)
    (by decide +kernel) hcode hc

theorem isWordOrBeyond_of_mem_upperCase {c x : Char} (hc : isWordOrBeyond c = true)
    (hx : x ∈ upperCase c) : isWordOrBeyond x = true := by
  have hform := upperForm c
  generalize upperCase c = form at hform hx
  cases hform with
  | ascii code =>
    rw [List.mem_singleton.mp hx]
    exact isWordOrBeyond_toUpper code hc
  | beyond code =>
    rw [List.mem_singleton.mp hx]
    exact isWordOrBeyond_of_le code
  | dotless =>
    rw [List.mem_singleton.mp hx]
    decide
  | long =>
    rw [List.mem_singleton.mp hx]
    decide
  | several capital => exact isWordOrBeyond_of_isCapitalOrBeyond (capital x hx)

/-! ## Capitalized names -/

/-- Whether a name starts with a capital of ASCII and goes on with a small letter. The two capitals
are left out that have other sources than their own small letters. -/
def isCapitalized : List Char → Bool
  | head :: second :: _ => head.isUpper && head != 'I' && head != 'S' && second.isLower
  | _ => false

theorem upperCase_of_isUpper {c : Char} (h : c.isUpper = true) :
    upperCase c = [c] ∧ upperCase c.toLower = [c] := by
  obtain ⟨hcode, hself, hlower⟩ : c.toLower.toNat < 128 ∧ c.toUpper = c ∧ c.toLower.toUpper = c :=
    forall_ascii (p := fun c ↦ c.isUpper = true →
      c.toLower.toNat < 128 ∧ c.toUpper = c ∧ c.toLower.toUpper = c)
      (by decide +kernel) (code_of_isUpper h) h
  rw [upperCase_of_ascii (code_of_isUpper h), upperCase_of_ascii hcode, hself, hlower]
  exact ⟨rfl, rfl⟩

theorem eq_or_eq_toLower_toUpper {c : Char} (hcode : c.toNat < 128) :
    c = c.toUpper ∨ c = c.toUpper.toLower :=
  forall_ascii (p := fun c ↦ c = c.toUpper ∨ c = c.toUpper.toLower) (by decide +kernel) hcode

theorem not_isCapitalOrBeyond_of_isLower {c : Char} (h : c.isLower = true) :
    isCapitalOrBeyond c = false :=
  forall_ascii (p := fun c ↦ c.isLower = true → isCapitalOrBeyond c = false)
    (by decide +kernel) (code_of_isLower h) h

/-- Nothing but its first letter in either case leads to a capitalized name. -/
theorem upperCase_append_eq_iff {c head : Char} {rest tail : List Char}
    (h : isCapitalized (head :: tail) = true) :
    upperCase c ++ rest = head :: tail ↔ (c = head ∨ c = head.toLower) ∧ rest = tail := by
  match tail, h with
  | second :: tail, h =>
    simp only [isCapitalized, Bool.and_eq_true, bne_iff_ne] at h
    obtain ⟨⟨⟨hupper, hI⟩, hS⟩, hlower⟩ := h
    constructor
    · intro heq
      have hform := upperForm c
      generalize upperCase c = form at hform heq
      cases hform with
      | ascii code =>
        obtain ⟨rfl, hrest⟩ := List.cons.inj heq
        exact ⟨eq_or_eq_toLower_toUpper code, hrest⟩
      | beyond code =>
        obtain ⟨rfl, -⟩ := List.cons.inj heq
        exact absurd (code_of_isUpper hupper) (Nat.not_lt.mpr code)
      | dotless => exact absurd (List.cons.inj heq).1.symm hI
      | long => exact absurd (List.cons.inj heq).1.symm hS
      | several capital =>
        -- The second character of such a form is no small letter.
        obtain ⟨-, hsecond⟩ := List.cons.inj heq
        obtain ⟨rfl, -⟩ := List.cons.inj hsecond
        have hcapital := capital _ (List.mem_cons_of_mem _ List.mem_cons_self)
        rw [not_isCapitalOrBeyond_of_isLower hlower] at hcapital
        exact absurd hcapital Bool.false_ne_true
    · rintro ⟨rfl | rfl, rfl⟩
      · rw [(upperCase_of_isUpper hupper).1]
        rfl
      · rw [(upperCase_of_isUpper hupper).2]
        rfl

end Text

/-! ## Class names -/

theorem toList_of_className {raw name : String} (h : className raw = .ok name) :
    ∃ c rest, classNameChars raw.toList = c :: rest ∧ name.toList = Text.upperCase c ++ rest := by
  rw [className] at h
  split at h
  · cases h
  · next c rest hchars =>
    obtain rfl := Except.ok.inj h
    exact ⟨c, rest, hchars, String.toList_ofList⟩

/-- Of ASCII, a class name has letters, digits and underscores only. -/
theorem isWordOrBeyond_of_mem_className {raw name : String} (h : className raw = .ok name)
    {x : Char} (hx : x ∈ name.toList) : Text.isWordOrBeyond x = true := by
  obtain ⟨c, rest, hchars, hname⟩ := toList_of_className h
  have hword : ∀ d ∈ c :: rest, Text.isWordOrBeyond d = true := by
    intro d hd
    rw [← hchars, classNameChars] at hd
    exact Text.isWordOrBeyond_of_isWord (List.mem_filter.mp hd).2
  rw [hname] at hx
  rcases List.mem_append.mp hx with hx | hx
  · exact Text.isWordOrBeyond_of_mem_upperCase (hword c List.mem_cons_self) hx
  · exact hword x (List.mem_cons_of_mem c hx)

theorem slash_notMem_of_className {raw name : String} (h : className raw = .ok name) :
    '/' ∉ name.toList := by
  intro hslash
  have hword := isWordOrBeyond_of_mem_className h hslash
  exact absurd hword (by decide)

/-! ### Plain names -/

/-- Letters and digits of ASCII stay, and a letter is not taken for a digit. -/
theorem classNameChars_of_isAlphanum {first : Char} {rest : List Char}
    (hfirst : first.isAlpha = true) (hrest : ∀ c ∈ rest, c.isAlphanum = true) :
    classNameChars (first :: rest) = first :: rest := by
  have hall : ∀ c ∈ first :: rest, c.isAlphanum = true :=
    List.forall_mem_cons.mpr ⟨by rw [Char.isAlphanum, hfirst, Bool.true_or], hrest⟩
  have hkept : ∀ c ∈ first :: rest, c ≠ ' ' ∧ Text.isWord c = true := fun c hc ↦
    Text.forall_ascii (p := fun c ↦ c.isAlphanum = true → c ≠ ' ' ∧ Text.isWord c = true)
      (by decide +kernel) (Text.code_of_isAlphanum (hall c hc)) (hall c hc)
  have hstart : Text.isDecimalDigit first = false :=
    Text.forall_ascii (p := fun c ↦ c.isAlpha = true → Text.isDecimalDigit c = false)
      (by decide +kernel) (Text.code_of_isAlphanum (hall first List.mem_cons_self)) hfirst
  have hspaced : (first :: rest).map (fun c ↦ if c = ' ' then '_' else c) = first :: rest :=
    (List.map_congr_left fun c hc ↦ if_neg (hkept c hc).1).trans (List.map_id _)
  rw [classNameChars, hspaced, List.dropWhile_cons_of_neg (by rw [hstart]; simp),
    List.filter_eq_self.mpr fun c hc ↦ (hkept c hc).2]

theorem stem_of_description {p : Path} {chars : List Char} (hne : chars ≠ [])
    (hfile : p.name.toList = chars ++ ".json".toList) : p.stem = String.ofList chars := by
  have hback : p.name.toList.reverse = "nosj".toList ++ '.' :: chars.reverse := by
    rw [hfile, List.reverse_append]
    rfl
  have hsuffix : ∀ c ∈ "nosj".toList, decide (c ≠ '.') = true := List.all_eq_true.mp (by rfl)
  rw [Path.stem, hback, List.takeWhile_append_of_pos hsuffix, List.dropWhile_append_of_pos hsuffix]
  simp [hne]

theorem className_of_description {p : Path} {name : String} (first : Char) (rest : List Char)
    (hfile : p.name.toList = first :: rest ++ ".json".toList) (hfirst : first.isAlpha = true)
    (hrest : rest.all Char.isAlphanum = true) (hname : name.toList = first.toUpper :: rest) :
    className p.stem = .ok name := by
  have hcode : first.toNat < 128 :=
    Text.code_of_isAlphanum (by rw [Char.isAlphanum, hfirst, Bool.true_or])
  have hchars : classNameChars p.stem.toList = first :: rest := by
    rw [stem_of_description (List.cons_ne_nil _ _) hfile, String.toList_ofList,
      classNameChars_of_isAlphanum hfirst (List.all_eq_true.mp hrest)]
  rw [className_of_chars hchars, Text.upperCase_of_ascii hcode, List.singleton_append, ← hname,
    String.ofList_toList]

/-! ### Capitalized names -/

/-- A name with its first letter as it is and in lower case. -/
def casings (name : String) : List (List Char) :=
  match name.toList with
  | [] => []
  | head :: tail => [head :: tail, head.toLower :: tail]

/-- A capitalized name is the class name of the stems that leave one of its casings. -/
theorem className_eq_iff {raw name target : String} (h : className raw = .ok name)
    (htarget : Text.isCapitalized target.toList = true) :
    name = target ↔ classNameChars raw.toList ∈ casings target := by
  obtain ⟨c, rest, hchars, hname⟩ := toList_of_className h
  rw [← String.toList_inj, hname, hchars, casings]
  match hlist : target.toList with
  | [] =>
    rw [hlist] at htarget
    cases htarget
  | head :: tail =>
    rw [hlist] at htarget
    rw [Text.upperCase_append_eq_iff htarget]
    simp only [List.mem_cons, List.cons.injEq, List.not_mem_nil, or_false]
    exact or_and_right

end AbiTypings
