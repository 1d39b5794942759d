import AbiTypings.Numeric.Binary64

/-!
# Shortest decimal text

A finite floating-point value stands for every real number that rounds to it. It is written with
the fewest decimal digits that lie in this interval, and among those with the digits closest to the
value, a tie going to the even digit. The digits are found by trying grids of 1, 2, … 17 digits in
exact arithmetic.

The layout is positional as long as the leading digit stands between `10 ^ (-4)` and `10 ^ 15`, and
scientific otherwise, with an exponent of at least two digits. A positional text always shows a
point.
-/

namespace AbiTypings.Numeric

/-- A decimal `digits * 10 ^ exponent`. -/
structure Decimal where
  /-- All digits, as one number. -/
  digits : Nat
  /-- The place of the last digit. -/
  exponent : Int
deriving DecidableEq, Repr

def digitChars (n : Nat) : List Char := Nat.toDigits 10 n

/-- Moves trailing zeros of the digits into the exponent. At most `fuel` zeros are moved; a number
has fewer zeros than digits. -/
def Decimal.trim (fuel : Nat) (d : Decimal) : Decimal :=
  match fuel with
  | 0 => d
  | fuel + 1 =>
    if d.digits ≠ 0 ∧ d.digits % 10 = 0 then Decimal.trim fuel ⟨d.digits / 10, d.exponent + 1⟩
    else d

/-- The shortest decimal that rounds to the nonzero value `m * 2 ^ q`. -/
def shortest (m : Nat) (q : Int) : Decimal :=
  -- everything is counted in quarters of the unit `2 ^ q`, as multiples of `10 ^ base`
  let base := min (q - 2) 0
  let quarter := if 2 ≤ q then Nat.pow 2 (q - 2).toNat else Nat.pow 5 (2 - q).toNat
  let value := 4 * m * quarter
  -- the neighbour below a power of two is only half as far away
  let low := (4 * m - if m = Binary64.significandLimit / 2 ∧ -1074 < q then 1 else 2) * quarter
  let high := (4 * m + 2) * quarter
  let inside (n : Nat) : Bool :=
    if m % 2 = 0 then low ≤ n && n ≤ high else low < n && n < high
  let places := (digitChars value).length
  let onGrid (n : Nat) : Option Decimal :=
    let grid := Nat.pow 10 (places - n)
    let below := value / grid
    let pick (k : Nat) : Option Decimal := some ⟨k, base + (places - n : Nat)⟩
    let twice := 2 * (value % grid)
    let nearer := if twice < grid ∨ (twice = grid ∧ below % 2 = 0) then below else below + 1
    let other := if nearer = below then below + 1 else below
    if inside (nearer * grid) then pick nearer
    else if inside (other * grid) then pick other
    else none
  let found := ((List.range 17).findSome? fun n ↦ onGrid (n + 1)).getD ⟨value, base⟩
  found.trim (digitChars found.digits).length

/-- An exponent with its sign and at least two digits. -/
def exponentText (e : Int) : List Char :=
  let digits := digitChars e.natAbs
  (if e < 0 then '-' else '+') :: (if digits.length < 2 then '0' :: digits else digits)

def Decimal.text (d : Decimal) : List Char :=
  let digits := digitChars d.digits
  -- how many digits stand before the point
  let before := d.exponent + digits.length
  if -4 < before ∧ before ≤ 16 then
    if before ≤ 0 then '0' :: '.' :: (List.replicate (-before).toNat '0' ++ digits)
    else if (digits.length : Int) ≤ before then
      digits ++ List.replicate (before - digits.length).toNat '0' ++ ['.', '0']
    else digits.take before.toNat ++ '.' :: digits.drop before.toNat
  else
    let mantissa := match digits with
      | first :: second :: rest => first :: '.' :: second :: rest
      | _ => digits
    mantissa ++ 'e' :: exponentText (before - 1)

def Binary64.text : Binary64 → String
  | finite negative m q =>
    let sign := if negative then ['-'] else []
    String.ofList (sign ++ if m = 0 then ['0', '.', '0'] else (shortest m q).text)
  | infinite negative => if negative then "-inf" else "inf"
  | nan => "nan"

end AbiTypings.Numeric
