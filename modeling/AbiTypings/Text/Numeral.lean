import AbiTypings.Text.Digit

/-!
# Decimal numerals

An unsigned numeral is a nonempty run of decimal digits, of any script and possibly of several,
read by value. Leading zeros are allowed. Numerals of more than `digitLimit` digits are refused;
the length is checked first, so an overlong run of digits is refused as overlong even when
something else follows it.
-/

namespace AbiTypings.Text

/-- The greatest number of digits in a numeral. -/
def digitLimit : Nat := 4300

/-- Why a text is not a numeral. -/
inductive NumeralFault where
  /-- The leading run of digits is longer than `digitLimit`. -/
  | tooLong (digits : Nat)
  /-- The text is empty or holds something other than decimal digits. -/
  | malformed (text : List CodePoint)
deriving DecidableEq, Repr

/-- The number written by decimal digits, most significant first. -/
def digitsValue (digits : List Nat) : Nat := digits.foldl (fun n d ↦ 10 * n + d) 0

/-- The number written by a run of decimal digits; everything else is passed over. -/
def numeralValue (s : List CodePoint) : Nat := digitsValue (s.filterMap decimalDigit?)

/-- Reads an unsigned numeral. -/
def readNumeral (s : List CodePoint) : Except NumeralFault Nat :=
  let digits := (s.takeWhile isDecimalDigit).length
  if digitLimit < digits then .error (.tooLong digits)
  else if s.isEmpty || digits < s.length then .error (.malformed s)
  else .ok (numeralValue s)

end AbiTypings.Text
