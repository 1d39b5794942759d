import AbiTypings.Fault
import AbiTypings.Text.Blank

/-!
# Type signatures

A signature names a base and then gives the dimensions of arrays over it, innermost first:
`uint8[2][]` is a sequence of pairs of bytes. Blanks may stand before the base, before each
dimension and at the end. Widths and sizes are numerals of any script; `uint` and `int` alone are
256 bits wide, `byte` is `bytes1`, and `bytes` alone has no fixed size, like an empty dimension.

A signature is read from its end, the outermost dimension first, and a fault shows the part that is
left to read when it is found.
-/

namespace AbiTypings

/-- What stands in front of the dimensions of a signature. -/
inductive Signature.Base where
  /-- A truth value. -/
  | bool
  /-- An account address. -/
  | address
  /-- A text. -/
  | string
  /-- Named components, which are given elsewhere. -/
  | tuple
  /-- An unsigned integer. -/
  | uint (bits : Nat)
  /-- A signed integer. -/
  | int (bits : Nat)
  /-- A string of bytes, of fixed size if one is given. -/
  | bytes (size : Option Nat)
deriving DecidableEq, Repr

/-- A base with the dimensions of arrays over it, innermost first. -/
structure Signature where
  /-- What the arrays are over. -/
  base : Signature.Base
  /-- The sizes of the dimensions, where they are fixed. -/
  dimensions : List (Option Nat)
deriving DecidableEq, Repr

namespace Signature

/-- Reads a width or a size. -/
def readWidth (digits : List CodePoint) : Except Fault Nat :=
  (Text.readNumeral digits).mapError .numeral

/-- The digits after a word, if a text is the word and decimal digits. -/
def digitsAfter? (word s : List CodePoint) : Option (List CodePoint) :=
  if word.isPrefixOf s ∧ (s.drop word.length).all Text.isDecimalDigit then
    some (s.drop word.length)
  else none

/-- Reads a base without surrounding blanks. -/
def Base.read (s : List CodePoint) : Except Fault Base :=
  if s = Text.toList "bool" then .ok .bool
  else if s = Text.toList "address" then .ok .address
  else if s = Text.toList "string" then .ok .string
  else if s = Text.toList "byte" then .ok (.bytes (some 1))
  else if s = Text.toList "tuple" then .ok .tuple
  else
    match digitsAfter? (Text.toList "uint") s with
    | some [] => .ok (.uint 256)
    | some digits => (readWidth digits).map .uint
    | none =>
      match digitsAfter? (Text.toList "int") s with
      | some [] => .ok (.int 256)
      | some digits => (readWidth digits).map .int
      | none =>
        match digitsAfter? (Text.toList "bytes") s with
        | some [] => .ok (.bytes none)
        | some digits => (readWidth digits).map fun n ↦ .bytes (some n)
        | none => .error (.unknownType ⟨s⟩)

/-- The text before the last opening bracket and the text between it and the closing bracket at the
end, if a text ends in a closing bracket. Without an opening bracket both are empty. -/
def splitDimension? (s : List CodePoint) : Option (List CodePoint × List CodePoint) :=
  match s.reverse with
  | .char ']' :: back =>
    some (((back.dropWhile (· ≠ .char '[')).drop 1).reverse,
      (back.takeWhile (· ≠ .char '[')).reverse)
  | _ => none

theorem length_lt_of_splitDimension? {s front size : List CodePoint}
    (h : splitDimension? s = some (front, size)) : front.length < s.length := by
  unfold splitDimension? at h
  split at h
  · next back hback =>
    simp only [Option.some.injEq, Prod.mk.injEq] at h
    have hs : s.length = back.length + 1 := by
      rw [← List.length_reverse, hback, List.length_cons]
    have hd := (List.dropWhile_suffix (fun c ↦ decide (c ≠ .char '[')) (l := back)).length_le
    rw [← h.1, List.length_reverse, List.length_drop]
    omega
  · contradiction

/-- Reads the size of a dimension; `shown` is the part of the signature that ends with it. -/
def readSize (shown size : List CodePoint) : Except Fault (Option Nat) :=
  if size.isEmpty then .ok none
  else if size.all Text.isDigitSign then (readWidth size).map some
  else .error (.unknownType ⟨shown⟩)

/-- Reads a signature in front of dimensions that have been read before. -/
def readOuter (outer : List (Option Nat)) (s : List CodePoint) : Except Fault Signature :=
  match h : splitDimension? (Text.strip s) with
  | none => (Base.read (Text.strip s)).map fun base ↦ ⟨base, outer⟩
  | some (front, size) =>
    if front.isEmpty then .error (.unknownType ⟨Text.strip s⟩)
    else
      match readSize (Text.strip s) size with
      | .error fault => .error fault
      | .ok n =>
        have := Nat.lt_of_lt_of_le (length_lt_of_splitDimension? h) (Text.length_strip_le s)
        readOuter (n :: outer) front
termination_by s.length

def read (s : List CodePoint) : Except Fault Signature := readOuter [] s

end Signature

end AbiTypings
