import AbiTypings.Association
import AbiTypings.Json.Basic
import AbiTypings.Text.Numeral
import AbiTypings.Text.Utf8

/-!
# Reading JSON text

A reader over characters that reports the first complaint with its place. It accepts the standard
grammar and three words more (`NaN`, `Infinity`, `-Infinity`); a number is read as far as it goes,
and what follows it is judged by itself. An object that names a key twice keeps the first place and
the last value. Integers are subject to the limit on numerals.

A number with a fraction or an exponent is a floating-point number, every other one an integer.

Every reader returns a `Later` cursor, one with fewer characters before it, and that is why reading
ends.
-/

namespace AbiTypings.Json

open Numeric

/-! ## Complaints -/

/-- What can be wrong at a place of a JSON text. -/
inductive Complaint where
  /-- The text starts with a byte order mark. -/
  | byteOrderMark
  /-- A value is missing. -/
  | missingValue
  /-- Something follows the value. -/
  | extraData
  /-- A quoted key is missing. -/
  | missingKey
  /-- The colon after a key is missing. -/
  | missingColon
  /-- Neither a comma nor the end follows an item or a member. -/
  | missingComma
  /-- A text has no closing quote. -/
  | unterminatedText
  /-- A text holds a control character. -/
  | controlCharacter
  /-- A backslash is followed by a character that means nothing there. -/
  | badEscape
  /-- Four hexadecimal digits are missing. -/
  | badCodePoint
deriving DecidableEq, Repr

def Complaint.message : Complaint → String
  | byteOrderMark => "Unexpected UTF-8 BOM (decode using utf-8-sig)"
  | missingValue => "Expecting value"
  | extraData => "Extra data"
  | missingKey => "Expecting property name enclosed in double quotes"
  | missingColon => "Expecting ':' delimiter"
  | missingComma => "Expecting ',' delimiter"
  | unterminatedText => "Unterminated string starting at"
  | controlCharacter => "Invalid control character at"
  | badEscape => "Invalid \\escape"
  | badCodePoint => "Invalid \\uXXXX escape"

/-- Why a text is not a JSON value. -/
inductive ReadFault where
  /-- The text breaks the grammar at the character with this offset. -/
  | malformed (complaint : Complaint) (line column offset : Nat)
  /-- An integer has more digits than numerals may have. -/
  | numeral (fault : Text.NumeralFault)
deriving DecidableEq, Repr

/-- Why reading stopped; places are counted in characters from the start. -/
inductive Stop where
  /-- The grammar is broken at this offset. -/
  | at (complaint : Complaint) (offset : Nat)
  /-- An integer is too long. -/
  | numeral (fault : Text.NumeralFault)

/-! ## Cursors -/

/-- A place in a text. -/
structure Cursor where
  /-- The characters still to be read. -/
  rest : List CodePoint
  /-- How many characters came before. -/
  offset : Nat

/-- A cursor that has come at least one character further than `c`. -/
abbrev Later (c : Cursor) := { d : Cursor // d.rest.length < c.rest.length }

/-- A later cursor of a cursor that lies no earlier than `c` is later than `c`. -/
def Later.weaken {c d : Cursor} (h : d.rest.length ≤ c.rest.length) (e : Later d) : Later c :=
  ⟨e.1, Nat.lt_of_lt_of_le e.2 h⟩

def Cursor.drop (c : Cursor) (n : Nat) : Cursor := ⟨c.rest.drop n, c.offset + n⟩

theorem Cursor.length_drop_le (c : Cursor) (n : Nat) :
    (c.drop n).rest.length ≤ c.rest.length := by
  simp [Cursor.drop]

/-- Whether a character may stand between the parts of a JSON text. -/
def isGap (c : CodePoint) : Bool := c == ' ' || c == '\t' || c == '\n' || c == '\r'

/-- The first place that is not a gap. -/
def Cursor.skipGaps (c : Cursor) : Cursor := c.drop (c.rest.takeWhile isGap).length

theorem Cursor.length_skipGaps_le (c : Cursor) : c.skipGaps.rest.length ≤ c.rest.length :=
  c.length_drop_le _

/-- The place after a word that stands here. -/
def Cursor.word? (c : Cursor) (word : List CodePoint) : Option (Later c) :=
  if h : word.isPrefixOf c.rest ∧ word ≠ [] then
    some ⟨c.drop word.length, by
      have hpre := (List.isPrefixOf_iff_prefix.mp h.1).length_le
      have hpos := List.length_pos_iff.mpr h.2
      simp only [Cursor.drop, List.length_drop]
      omega⟩
  else none

/-! ## Texts -/

def hexDigit? (c : CodePoint) : Option Nat :=
  if '0' ≤ c ∧ c ≤ '9' then some (c.toNat - '0'.toNat)
  else if 'a' ≤ c ∧ c ≤ 'f' then some (c.toNat - 'a'.toNat + 10)
  else if 'A' ≤ c ∧ c ≤ 'F' then some (c.toNat - 'A'.toNat + 10)
  else none

/-- The number written by hexadecimal digits. -/
def hexValue? (digits : List CodePoint) : Option Nat :=
  digits.foldl (fun n? c ↦ do return 16 * (← n?) + (← hexDigit? c)) (some 0)

/-- The character that a letter after a backslash stands for. -/
def escaped? : CodePoint → Option Char
  | .char '"' => some '"'
  | .char '\\' => some '\\'
  | .char '/' => some '/'
  | .char 'b' => some '\x08'
  | .char 'f' => some '\x0c'
  | .char 'n' => some '\n'
  | .char 'r' => some '\r'
  | .char 't' => some '\t'
  | _ => none

/-- Whether a code unit is the first half of a pair. -/
def isHighHalf (n : Nat) : Bool := 0xD800 ≤ n && n ≤ 0xDBFF

/-- Whether a code unit is the second half of a pair. -/
def isLowHalf (n : Nat) : Bool := 0xDC00 ≤ n && n ≤ 0xDFFF

/-- The character written by two halves. -/
def joinHalves (high low : Nat) : Char :=
  Char.ofNat (0x10000 + (high - 0xD800) * 0x400 + (low - 0xDC00))

/-- The code point of a code unit that is no part of a pair: a half that stands alone is kept. -/
def unitPoint (n : Nat) : CodePoint :=
  if h : 0xD800 ≤ n ∧ n ≤ 0xDFFF then .half ⟨n - 0xD800, by omega⟩ else .char (Char.ofNat n)

/-- One code point of a text, written by itself or by an escape sequence. The cursor stands inside
the text, whose opening quote is at the offset `start`. -/
def readPoint (start : Nat) (c : Cursor) : Except Stop (CodePoint × Later c) :=
  let further (n : Nat) (x : CodePoint) : Except Stop (CodePoint × Later c) :=
    if h : 0 < n ∧ c.rest ≠ [] then
      .ok (x, ⟨c.drop n, by
        have := List.length_pos_iff.mpr h.2
        simp only [Cursor.drop, List.length_drop]
        omega⟩)
    else .error (.at .unterminatedText start)
  match c.rest with
  | [] => .error (.at .unterminatedText start)
  | [.char '\\'] => .error (.at .unterminatedText start)
  | .char '\\' :: .char 'u' :: more =>
    let complain (offset : Nat) : Except Stop (CodePoint × Later c) :=
      .error (.at .badCodePoint offset)
    -- a sequence that ends with the whole text is refused
    if more.length ≤ 4 then complain (c.offset + 1)
    else
      match hexValue? (more.take 4) with
      | none => complain (c.offset + 1)
      | some high =>
        match more.drop 4 with
        | .char '\\' :: .char 'u' :: tail =>
          if isHighHalf high && 4 < tail.length then
            match hexValue? (tail.take 4) with
            | none => complain (c.offset + 7)
            | some low =>
              if isLowHalf low then further 12 (joinHalves high low)
              else further 6 (unitPoint high)
          else further 6 (unitPoint high)
        | _ => further 6 (unitPoint high)
  | .char '\\' :: letter :: _ =>
    match escaped? letter with
    | some x => further 2 x
    | none => .error (.at .badEscape c.offset)
  | x :: _ => if x < ' ' then .error (.at .controlCharacter c.offset) else further 1 x

/-- The rest of a text up to its closing quote, after the characters read before in reverse. The
text was entered at the cursor `origin`. -/
def readTextFrom (start : Nat) (origin : Cursor) (before : List CodePoint) (c : Cursor)
    (h : c.rest.length ≤ origin.rest.length) : Except Stop (Text × Later origin) :=
  match c.word? ['"'] with
  | some d => .ok (⟨before.reverse⟩, d.weaken h)
  | none =>
    match readPoint start c with
    | .error stop => .error stop
    | .ok (x, d) =>
      have := d.2
      readTextFrom start origin (x :: before) d.1 (Nat.le_trans (Nat.le_of_lt d.2) h)
termination_by c.rest.length

def readText (start : Nat) (c : Cursor) : Except Stop (Text × Later c) :=
  readTextFrom start c [] c (Nat.le_refl _)

/-! ## Numbers -/

/-- Whether a code point is one of the ten digits that numbers are written with. -/
def isDigit (c : CodePoint) : Bool := '0' ≤ c && c ≤ '9'

/-- The parts of a written number. -/
structure Literal where
  /-- Whether a minus sign stands in front. -/
  negative : Bool
  /-- The digits before the point. -/
  whole : List CodePoint
  /-- The digits after the point. -/
  fraction : List CodePoint
  /-- The exponent, if one is written. -/
  exponent : Option Int
  /-- The number of characters. -/
  length : Nat

/-- The exponent at the start of a text, with the number of its characters. -/
def exponent? : List CodePoint → Option (Int × Nat)
  | e :: rest =>
    if e = 'e' ∨ e = 'E' then
      let (negative, sign, rest) := match rest with
        | .char '+' :: rest => (false, 1, rest)
        | .char '-' :: rest => (true, 1, rest)
        | rest => (false, 0, rest)
      let digits := rest.takeWhile isDigit
      if digits.isEmpty then none
      else
        let n : Int := Text.numeralValue digits
        some (if negative then -n else n, 1 + sign + digits.length)
    else none
  | [] => none

/-- The longest number at the start of a text. -/
def literal? (s : List CodePoint) : Option Literal :=
  let (negative, sign, s) := match s with
    | .char '-' :: s => (true, 1, s)
    | s => (false, 0, s)
  let whole : List CodePoint := match s with
    | .char '0' :: _ => ['0']
    | s => s.takeWhile isDigit
  if whole.isEmpty then none
  else
    let s := s.drop whole.length
    let fraction := match s with
      | .char '.' :: s => s.takeWhile isDigit
      | _ => []
    let point := if fraction.isEmpty then 0 else 1 + fraction.length
    let exponent := exponent? (s.drop point)
    some ⟨negative, whole, fraction, exponent.map (·.1),
      sign + whole.length + point + (exponent.map (·.2)).getD 0⟩

def Literal.value (l : Literal) : Except Stop Json :=
  if l.fraction.isEmpty && l.exponent.isNone then
    match Text.readNumeral l.whole with
    | .ok n => .ok (.int (if l.negative then -(n : Int) else n))
    | .error fault => .error (.numeral fault)
  else
    let digits := Text.numeralValue (l.whole ++ l.fraction)
    .ok (.float (.ofDecimal l.negative digits (l.exponent.getD 0 - l.fraction.length)))

/-- The words that stand for a value. -/
def valueWords : List (Text × Json) :=
  [("null", .null), ("true", .bool true), ("false", .bool false), ("NaN", .float .nan),
   ("Infinity", .float (.infinite false)), ("-Infinity", .float (.infinite true))]

/-- A word or a number that stands here. -/
def readScalar (c : Cursor) : Except Stop (Json × Later c) :=
  match valueWords.findSome? fun (word, v) ↦ (c.word? word.toList).map fun d ↦ (v, d) with
  | some found => .ok found
  | none =>
    match literal? c.rest with
    | some l =>
      if h : 0 < l.length ∧ c.rest ≠ [] then do
        let v ← l.value
        return (v, ⟨c.drop l.length, by
          have := List.length_pos_iff.mpr h.2
          simp only [Cursor.drop, List.length_drop]
          omega⟩)
      else .error (.at .missingValue c.offset)
    | none => .error (.at .missingValue c.offset)

/-! ## Values -/

mutual

/-- A value that stands here. -/
def readValue (c : Cursor) : Except Stop (Json × Later c) :=
  match c.word? ['"'] with
  | some d => do
    let (s, e) ← readText c.offset d.1
    return (.str s, e.weaken (Nat.le_of_lt d.2))
  | none =>
    match c.word? ['['] with
    | some d =>
      match d.1.skipGaps.word? [']'] with
      | some e =>
        .ok (.arr [], e.weaken (Nat.le_trans (Cursor.length_skipGaps_le _) (Nat.le_of_lt d.2)))
      | none => do
        have := Nat.lt_of_le_of_lt (Cursor.length_skipGaps_le d.1) d.2
        let (items, e) ← readItems d.1.skipGaps
        return (.arr items,
          e.weaken (Nat.le_trans (Cursor.length_skipGaps_le _) (Nat.le_of_lt d.2)))
    | none =>
      match c.word? ['\x7b'] with
      | some d =>
        match d.1.skipGaps.word? ['\x7d'] with
        | some e =>
          .ok (.obj [], e.weaken (Nat.le_trans (Cursor.length_skipGaps_le _) (Nat.le_of_lt d.2)))
        | none => do
          have := Nat.lt_of_le_of_lt (Cursor.length_skipGaps_le d.1) d.2
          let (members, e) ← readMembers [] d.1.skipGaps
          return (.obj members,
            e.weaken (Nat.le_trans (Cursor.length_skipGaps_le _) (Nat.le_of_lt d.2)))
      | none => readScalar c
termination_by (c.rest.length, 0)

/-- The items of a sequence up to its closing bracket. -/
def readItems (c : Cursor) : Except Stop (List Json × Later c) := do
  let (v, d) ← readValue c
  have hd := Nat.lt_of_le_of_lt (Cursor.length_skipGaps_le d.1) d.2
  match d.1.skipGaps.word? [']'] with
  | some e => return ([v], e.weaken (Nat.le_of_lt hd))
  | none =>
    match d.1.skipGaps.word? [','] with
    | some e =>
      have he := Nat.lt_of_le_of_lt (Cursor.length_skipGaps_le e.1) (Nat.lt_trans e.2 hd)
      let (vs, f) ← readItems e.1.skipGaps
      return (v :: vs, f.weaken (Nat.le_of_lt he))
    | none => .error (.at .missingComma d.1.skipGaps.offset)
termination_by (c.rest.length, 1)

/-- The members of an object up to its closing brace, after the members read before. -/
def readMembers (before : List (Text × Json)) (c : Cursor) :
    Except Stop (List (Text × Json) × Later c) :=
  match c.word? ['"'] with
  | none => .error (.at .missingKey c.offset)
  | some q => do
    let (key, k) ← readText c.offset q.1
    have hk := Nat.lt_of_le_of_lt (Cursor.length_skipGaps_le k.1) (Nat.lt_trans k.2 q.2)
    match k.1.skipGaps.word? [':'] with
    | none => .error (.at .missingColon k.1.skipGaps.offset)
    | some p =>
      have hp := Nat.lt_of_le_of_lt (Cursor.length_skipGaps_le p.1) (Nat.lt_trans p.2 hk)
      let (v, d) ← readValue p.1.skipGaps
      have hd := Nat.lt_of_le_of_lt (Cursor.length_skipGaps_le d.1) (Nat.lt_trans d.2 hp)
      let members := Association.put before key v
      match d.1.skipGaps.word? ['\x7d'] with
      | some e => return (members, e.weaken (Nat.le_of_lt hd))
      | none =>
        match d.1.skipGaps.word? [','] with
        | some e =>
          have he := Nat.lt_of_le_of_lt (Cursor.length_skipGaps_le e.1) (Nat.lt_trans e.2 hd)
          let (all, f) ← readMembers members e.1.skipGaps
          return (all, f.weaken (Nat.le_of_lt he))
        | none => .error (.at .missingComma d.1.skipGaps.offset)
termination_by (c.rest.length, 1)

end

/-- The complaint with its line, counted from one, and the column in it. -/
def locate (text : List CodePoint) (complaint : Complaint) (offset : Nat) : ReadFault :=
  let before := text.take offset
  let lineStart := (before.reverse.takeWhile (· ≠ .char '\n')).length
  .malformed complaint (before.count (.char '\n') + 1) (lineStart + 1) offset

/-- Reads a text that holds exactly one value, with gaps around it. -/
def read (text : Text) : Except ReadFault Json :=
  let result : Except Stop Json :=
    if text.toList.head? = some (.char '\uFEFF') then .error (.at .byteOrderMark 0)
    else do
      let (v, d) ← readValue (Cursor.mk text.toList 0).skipGaps
      let last := d.1.skipGaps
      if last.rest.isEmpty then return v else .error (.at .extraData last.offset)
  result.mapError fun
    | .at complaint offset => locate text.toList complaint offset
    | .numeral fault => .numeral fault

end AbiTypings.Json
