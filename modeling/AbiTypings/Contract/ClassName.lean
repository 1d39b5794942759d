import AbiTypings.Fault
import AbiTypings.Text.UpperCase
import AbiTypings.Text.Word

/-!
# Class names

A contract is named after its file. Spaces become underscores, digits in front are dropped, and so
is every character that is no word character; the first character that is left is put in upper
case. Digits behind a dropped character stay, so a name can still start with one.
-/

namespace AbiTypings

/-- The characters of a name that may stand in a class name. -/
def classNameChars (raw : List Char) : List Char :=
  let spaced := raw.map fun c ↦ if c = ' ' then '_' else c
  (spaced.dropWhile fun (c : Char) ↦ Text.isDecimalDigit c).filter
    fun (c : Char) ↦ Text.isWord c

def className (raw : String) : Except Fault String :=
  match classNameChars raw.toList with
  | [] => .error (.noClassName raw)
  | c :: rest => .ok (String.ofList (Text.upperCase c ++ rest))

theorem className_of_chars {raw : String} {c : Char} {rest : List Char}
    (h : classNameChars raw.toList = c :: rest) :
    className raw = .ok (String.ofList (Text.upperCase c ++ rest)) := by
  rw [className, h]

theorem className_eq_error_iff (raw : String) (fault : Fault) :
    className raw = .error fault ↔
      classNameChars raw.toList = [] ∧ fault = .noClassName raw := by
  unfold className
  split
  · next h => simp [h, eq_comm]
  · next c rest h => simp [h]

end AbiTypings
