import AbiTypings.Text.Quoted

/-!
# Bytes and texts

A decoder for UTF-8 that reports the first bytes that are no character. A sequence is cut off as
soon as a byte cannot continue it: the report then covers the bytes up to there. Byte order marks
are kept as characters.

In the other direction, halves that stand alone have no bytes. An encoder refuses them, or takes
some of them and stands in for them, and it reports the first ones that it refuses.
-/

namespace AbiTypings.Text

/-! ## Faults -/

/-- Why bytes are no character. -/
inductive DecodeReason where
  /-- The first byte starts no character. -/
  | invalidStart
  /-- The byte after the reported ones does not continue them. -/
  | invalidContinuation
  /-- The input ends inside a character. -/
  | unexpectedEnd
deriving DecidableEq, Repr

def DecodeReason.message : DecodeReason → String
  | invalidStart => "invalid start byte"
  | invalidContinuation => "invalid continuation byte"
  | unexpectedEnd => "unexpected end of data"

/-- The first bytes of an input that are no character. -/
structure DecodeFault where
  /-- What is wrong with them. -/
  reason : DecodeReason
  /-- The first of them. -/
  byte : Nat
  /-- The offset of the first of them. -/
  start : Nat
  /-- How many there are. -/
  count : Nat
deriving DecidableEq, Repr

/-- The text of a fault. A single byte is shown, several are given by their places. -/
def DecodeFault.message (f : DecodeFault) : String :=
  let place :=
    if f.count = 1 then
      let digits := Nat.toDigits 16 f.byte
      let digits := if digits.length < 2 then '0' :: digits else digits
      "byte 0x" ++ String.ofList digits ++ " in position " ++ toString f.start
    else "bytes in position " ++ toString f.start ++ "-" ++ toString (f.start + f.count - 1)
  "'utf-8' codec can't decode " ++ place ++ ": " ++ f.reason.message

/-! ## Decoding -/

/-- A character of which some bytes have been read. -/
structure Unfinished where
  /-- The first byte. -/
  byte : Nat
  /-- The offset of the first byte. -/
  start : Nat
  /-- How many bytes have been read. -/
  count : Nat
  /-- The bits read so far. -/
  bits : Nat
  /-- How many bytes are still owed. -/
  owed : Nat
  /-- The least byte that may come next. -/
  low : Nat
  /-- The greatest byte that may come next. -/
  high : Nat

/-- What a byte above 127 starts. The range of the second byte leaves out characters that have a
shorter form, lone halves of pairs and code points beyond the last one. -/
def unfinished? (offset byte : Nat) : Option Unfinished :=
  if byte < 0xC2 then none
  else if byte < 0xE0 then some ⟨byte, offset, 1, byte - 0xC0, 1, 0x80, 0xBF⟩
  else if byte < 0xF0 then
    some ⟨byte, offset, 1, byte - 0xE0, 2, if byte = 0xE0 then 0xA0 else 0x80,
      if byte = 0xED then 0x9F else 0xBF⟩
  else if byte < 0xF5 then
    some ⟨byte, offset, 1, byte - 0xF0, 3, if byte = 0xF0 then 0x90 else 0x80,
      if byte = 0xF4 then 0x8F else 0xBF⟩
  else none

/-- Reads bytes from an offset on, after the characters read before in reverse. -/
def decodeFrom (before : List Char) (pending : Option Unfinished) (offset : Nat) :
    List UInt8 → Except DecodeFault (List Char)
  | [] =>
    match pending with
    | none => .ok before.reverse
    | some u => .error ⟨.unexpectedEnd, u.byte, u.start, u.count⟩
  | b :: rest =>
    match pending with
    | none =>
      if b.toNat < 0x80 then decodeFrom (Char.ofNat b.toNat :: before) none (offset + 1) rest
      else
        match unfinished? offset b.toNat with
        | none => .error ⟨.invalidStart, b.toNat, offset, 1⟩
        | some u => decodeFrom before (some u) (offset + 1) rest
    | some u =>
      if b.toNat < u.low ∨ u.high < b.toNat then
        .error ⟨.invalidContinuation, u.byte, u.start, u.count⟩
      else
        let bits := 64 * u.bits + (b.toNat - 0x80)
        if u.owed = 1 then decodeFrom (Char.ofNat bits :: before) none (offset + 1) rest
        else
          decodeFrom before (some ⟨u.byte, u.start, u.count + 1, bits, u.owed - 1, 0x80, 0xBF⟩)
            (offset + 1) rest

def decode (bytes : List UInt8) : Except DecodeFault (List Char) := decodeFrom [] none 0 bytes

/-- The text with every kind of line end turned into a line feed. -/
def unifyLineEnds (s : List Char) : List Char :=
  go [] s
where
  /-- The same, after the characters passed before in reverse. -/
  go (before : List Char) : List Char → List Char
    | [] => before.reverse
    | '\r' :: '\n' :: rest => go ('\n' :: before) rest
    | c :: rest => go ((if c = '\r' then '\n' else c) :: before) rest

/-! ## Encoding -/

/-- The first halves of a text that an encoder refuses. -/
structure EncodeFault where
  /-- The first of them. -/
  half : Half
  /-- The place of the first of them. -/
  start : Nat
  /-- How many halves there are from there on. -/
  count : Nat
deriving DecidableEq, Repr

/-- The text of a fault. A single half is shown, several are given by their places. -/
def EncodeFault.message (f : EncodeFault) : String :=
  let place :=
    if f.count = 1 then
      "character '\\u" ++ String.ofList (hexText 4 (CodePoint.half f.half).toNat) ++
        "' in position " ++ toString f.start
    else "characters in position " ++ toString f.start ++ "-" ++ toString (f.start + f.count - 1)
  "'utf-8' codec can't encode " ++ place ++ ": surrogates not allowed"

/-- What is refused in a text from a place on, by an encoder that takes some of the halves. -/
def refused? (takes : Half → Bool) (start : Nat) : List CodePoint → Option EncodeFault
  | [] => none
  | .char _ :: rest => refused? takes (start + 1) rest
  | .half h :: rest =>
    if takes h then refused? takes (start + 1) rest
    else some ⟨h, start, 1 + (rest.takeWhile CodePoint.isHalf).length⟩

/-- The string with an escape sequence in the place of every half. -/
def escapeHalves (s : Text) : String :=
  String.ofList (s.toList.flatMap fun
    | .char c => [c]
    | .half h => '\\' :: 'u' :: hexText 4 (CodePoint.half h).toNat)

/-- Writes a text as bytes. -/
def encode (s : Text) : Except EncodeFault (List UInt8) :=
  match refused? (fun _ ↦ false) 0 s.toList with
  | some fault => .error fault
  | none => .ok (String.ofList (s.toList.filterMap CodePoint.char?)).toUTF8.toList

end AbiTypings.Text
