/-!
# Texts

Documents are text in UTF-8, but the texts inside them need not be: an escape sequence can write one
half of a surrogate pair without the other. Such a half is no character, it is carried along like
one, and it is noticed only where a text is turned into bytes. So texts are sequences of code
points, and a code point is a character or a half that stands alone.

Words of the library itself, names of files and arguments are plain strings, and a string is used as
a text wherever one is expected.
-/

namespace AbiTypings

/-! ## Code points -/

/-- Half of a surrogate pair, counted from U+D800. -/
abbrev Half := Fin 0x800

/-- A code point. -/
inductive CodePoint where
  /-- A character. -/
  | char (c : Char)
  /-- A half that stands alone. -/
  | half (h : Half)
deriving DecidableEq, Repr

namespace CodePoint

instance : Coe Char CodePoint := ⟨char⟩

def toNat : CodePoint → Nat
  | char c => c.toNat
  | half h => 0xD800 + h

instance : LT CodePoint := ⟨fun c d ↦ c.toNat < d.toNat⟩

instance : LE CodePoint := ⟨fun c d ↦ c.toNat ≤ d.toNat⟩

instance (c d : CodePoint) : Decidable (c < d) := inferInstanceAs (Decidable (c.toNat < d.toNat))

instance (c d : CodePoint) : Decidable (c ≤ d) := inferInstanceAs (Decidable (c.toNat ≤ d.toNat))

def isHalf : CodePoint → Bool
  | char _ => false
  | half _ => true

/-- The character, if it is one. -/
def char? : CodePoint → Option Char
  | char c => some c
  | half _ => none

theorem toNat_inj {c d : CodePoint} : c.toNat = d.toNat ↔ c = d := by
  refine ⟨fun h ↦ ?_, fun h ↦ h ▸ rfl⟩
  have hapart : ∀ (c : Char) (g : Half), c.toNat ≠ 0xD800 + g := by
    intro c g
    have hvalid : c.toNat.isValidChar := c.valid
    rw [Nat.isValidChar] at hvalid
    omega
  cases c with
  | char c =>
    cases d with
    | char d => exact congrArg char (Char.toNat_inj.mp h)
    | half g => exact absurd h (hapart c g)
  | half g =>
    cases d with
    | char d => exact absurd h.symm (hapart d g)
    | half k => exact congrArg half (Fin.ext (Nat.add_left_cancel h))

instance : Std.IsLinearOrder CodePoint where
  le_refl c := Nat.le_refl c.toNat
  le_trans _ _ _ := Nat.le_trans
  le_antisymm _ _ h h' := toNat_inj.mp (Nat.le_antisymm h h')
  le_total c d := Nat.le_total c.toNat d.toNat

instance : Std.LawfulOrderLT CodePoint where
  lt_iff _ _ := Nat.lt_iff_le_and_not_ge

end CodePoint

/-! ## Sequences of code points -/

/-- A text. -/
structure Text where
  /-- The text with the given code points. -/
  ofList ::
  /-- The code points. -/
  toList : List CodePoint
deriving DecidableEq, Repr

namespace Text

@[coe] def ofString (s : String) : Text := ⟨s.toList.map .char⟩

instance : Coe String Text := ⟨ofString⟩

instance : Inhabited Text := ⟨""⟩

instance : Append Text := ⟨fun s t ↦ ⟨s.toList ++ t.toList⟩⟩

instance : LT Text := ⟨fun s t ↦ s.toList < t.toList⟩

instance : LE Text := ⟨fun s t ↦ s.toList ≤ t.toList⟩

instance (s t : Text) : Decidable (s < t) := inferInstanceAs (Decidable (s.toList < t.toList))

def singleton (c : CodePoint) : Text := ⟨[c]⟩

def length (s : Text) : Nat := s.toList.length

def isEmpty (s : Text) : Bool := s.toList.isEmpty

/-- Texts one after the other. -/
def join (parts : List Text) : Text := ⟨parts.flatMap toList⟩

/-- Texts one after the other, with a separator between each two. -/
def intercalate (separator : Text) (parts : List Text) : Text :=
  ⟨separator.toList.intercalate (parts.map toList)⟩

/-- The string with the same code points, if all of them are characters. -/
def string? (s : Text) : Option String := (s.toList.mapM CodePoint.char?).map String.ofList

/-! ## Laws -/

variable {s t u : Text}

theorem toList_inj : s.toList = t.toList ↔ s = t := by
  constructor
  · cases s
    cases t
    rintro rfl
    rfl
  · rintro rfl
    rfl

theorem toList_ofString (s : String) : (s : Text).toList = s.toList.map .char := rfl

@[simp] theorem ofString_inj {s t : String} : (s : Text) = t ↔ s = t := by
  rw [← toList_inj, toList_ofString, toList_ofString,
    List.map_inj_right fun _ _ h ↦ CodePoint.char.inj h, String.toList_inj]

@[simp] theorem beq_ofString (s t : String) : ((s : Text) == (t : Text)) = (s == t) := by
  rw [Bool.eq_iff_iff, beq_iff_eq, beq_iff_eq, ofString_inj]

theorem ofString_append (s t : String) : ofString (s ++ t) = s ++ t := by
  rw [← toList_inj, toList_ofString, String.toList_append, List.map_append]
  rfl

theorem isEmpty_iff : s.isEmpty = true ↔ s = "" := by
  rw [isEmpty, List.isEmpty_iff, ← toList_inj]
  rfl

/-! ### Order -/

instance : Std.IsLinearOrder Text where
  le_refl s := List.le_refl s.toList
  le_trans _ _ _ := List.le_trans
  le_antisymm _ _ h h' := toList_inj.mp (List.le_antisymm h h')
  le_total s t := List.le_total s.toList t.toList

instance : Std.LawfulOrderLT Text where
  lt_iff s t := Std.LawfulOrderLT.lt_iff s.toList t.toList

/-! ### One text after another -/

theorem toList_append (s t : Text) : (s ++ t).toList = s.toList ++ t.toList := rfl

theorem append_assoc (s t u : Text) : s ++ t ++ u = s ++ (t ++ u) :=
  toList_inj.mp (List.append_assoc s.toList t.toList u.toList)

@[simp] theorem empty_append (s : Text) : "" ++ s = s := rfl

@[simp] theorem append_empty (s : Text) : s ++ "" = s := toList_inj.mp (List.append_nil s.toList)

theorem append_right_inj (s : Text) : s ++ t = s ++ u ↔ t = u := by
  rw [← toList_inj, toList_append, toList_append, List.append_cancel_left_eq, toList_inj]

theorem join_cons (s : Text) (parts : List Text) : join (s :: parts) = s ++ join parts := rfl

/-! ### Separators -/

theorem toList_intercalate (separator : Text) (parts : List Text) :
    (separator.intercalate parts).toList = separator.toList.intercalate (parts.map toList) := rfl

@[simp] theorem intercalate_singleton : s.intercalate [t] = t :=
  toList_inj.mp (List.append_nil t.toList)

theorem intercalate_cons_cons (s t u : Text) (parts : List Text) :
    s.intercalate (t :: u :: parts) = t ++ s ++ s.intercalate (u :: parts) := by
  rw [append_assoc]
  rfl

theorem intercalate_cons_of_ne_nil {parts : List Text} (h : parts ≠ []) :
    s.intercalate (t :: parts) = t ++ s ++ s.intercalate parts := by
  obtain ⟨p, parts, rfl⟩ := List.exists_cons_of_ne_nil h
  exact intercalate_cons_cons s t p parts

theorem intercalate_append_of_ne_nil {front back : List Text} (hfront : front ≠ [])
    (hback : back ≠ []) :
    s.intercalate (front ++ back) = s.intercalate front ++ s ++ s.intercalate back := by
  induction front with
  | nil => exact absurd rfl hfront
  | cons t front ih =>
    rw [List.cons_append, intercalate_cons_of_ne_nil (List.append_ne_nil_of_right_ne_nil _ hback)]
    by_cases hnil : front = []
    · rw [hnil, List.nil_append, intercalate_singleton]
    · rw [ih hnil, intercalate_cons_of_ne_nil hnil]
      simp only [append_assoc]

/-- Strings can be joined before they are used as texts. -/
theorem intercalate_map_ofString (separator : String) (parts : List String) :
    Text.intercalate separator (parts.map ofString) = ofString (separator.intercalate parts) := by
  induction parts with
  | nil => rfl
  | cons part parts ih =>
    by_cases hnil : parts = []
    · rw [hnil, List.map_singleton, intercalate_singleton, String.intercalate_singleton]
    · rw [List.map_cons, intercalate_cons_of_ne_nil (by simpa using hnil), ih,
        String.intercalate_cons_of_ne_nil hnil, ofString_append, ofString_append]

/-! ### Strings -/

private theorem mapM_char?_eq_some_iff {points : List CodePoint} {chars : List Char} :
    points.mapM CodePoint.char? = some chars ↔ points = chars.map .char := by
  induction points generalizing chars with
  | nil => simp [eq_comm]
  | cons p points ih =>
    cases p with
    | half h => cases chars <;> simp [CodePoint.char?]
    | char c =>
      cases chars with
      | nil => simp [CodePoint.char?, Option.bind_eq_some_iff]
      | cons d chars => simpa [CodePoint.char?, Option.bind_eq_some_iff, ih] using and_comm

theorem string?_eq_some_iff {s : Text} {t : String} : s.string? = some t ↔ s = t := by
  rw [string?, ← toList_inj, toList_ofString]
  constructor
  · intro h
    obtain ⟨chars, hchars, rfl⟩ := Option.map_eq_some_iff.mp h
    rw [String.toList_ofList, ← mapM_char?_eq_some_iff, hchars]
  · intro h
    rw [mapM_char?_eq_some_iff.mpr h, Option.map_some, String.ofList_toList]

end Text

end AbiTypings
