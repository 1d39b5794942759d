import AbiTypings.Text.Printable

/-!
# Quoted text

A text is shown between single quotes, or between double quotes if it holds single quotes only.
Inside, the backslash, the surrounding quote, line feed, carriage return and tab are written with a
backslash and a letter; every other code point that is not printable is written in two, four or
eight hexadecimal digits. All others stand for themselves.
-/

namespace AbiTypings.Text

/-- The hexadecimal digits of `n`, padded with zeros to at least `width`. -/
def hexText (width n : Nat) : List Char :=
  let digits := Nat.toDigits 16 n
  List.replicate (width - digits.length) '0' ++ digits

/-- A backslash with a letter and the hexadecimal digits of `n` behind it. -/
def hexEscape (letter : Char) (width n : Nat) : List CodePoint :=
  '\\' :: letter :: (hexText width n).map .char

/-- The quote that surrounds a text. -/
def quoteFor (s : List CodePoint) : CodePoint :=
  if s.contains '\'' && !s.contains '"' then '"' else '\''

/-- The written form of one code point between quotes of the given kind. -/
def escapeChar (quote c : CodePoint) : List CodePoint :=
  if c = '\\' ∨ c = quote then ['\\', c]
  else if c = '\n' then ['\\', 'n']
  else if c = '\r' then ['\\', 'r']
  else if c = '\t' then ['\\', 't']
  else if isPrintable c then [c]
  else if c.toNat < 0x100 then hexEscape 'x' 2 c.toNat
  else if c.toNat < 0x10000 then hexEscape 'u' 4 c.toNat
  else hexEscape 'U' 8 c.toNat

def quoteChars (s : List CodePoint) : List CodePoint :=
  let quote := quoteFor s
  quote :: (s.flatMap (escapeChar quote) ++ [quote])

/-- The text between quotes, with everything unprintable escaped. -/
def quote (s : Text) : Text := ⟨quoteChars s.toList⟩

end AbiTypings.Text
