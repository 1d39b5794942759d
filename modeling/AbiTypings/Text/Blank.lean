import AbiTypings.Text.Basic
import AbiTypings.Text.Range

/-!
# White space

A character is blank when it is a separator of words or lines in any script, or one of the four
information separators U+001C to U+001F. Zero-width characters and the byte order mark are not
blank.
-/

namespace AbiTypings.Text

/-- Code points of the blank characters. -/
def blankRanges : List (Nat × Nat) :=
  [(0x9, 0xD), (0x1C, 0x20), (0x85, 0x85), (0xA0, 0xA0), (0x1680, 0x1680), (0x2000, 0x200A),
   (0x2028, 0x2029), (0x202F, 0x202F), (0x205F, 0x205F), (0x3000, 0x3000)]

def isBlank (c : CodePoint) : Bool := inRanges blankRanges c.toNat

def strip (s : List CodePoint) : List CodePoint :=
  ((s.dropWhile isBlank).reverse.dropWhile isBlank).reverse

theorem length_strip_le (s : List CodePoint) : (strip s).length ≤ s.length := by
  have h₁ := (List.dropWhile_suffix isBlank (l := s)).length_le
  have h₂ := (List.dropWhile_suffix isBlank (l := (s.dropWhile isBlank).reverse)).length_le
  rw [List.length_reverse] at h₂
  rw [strip, List.length_reverse]
  exact Nat.le_trans h₂ h₁

end AbiTypings.Text
