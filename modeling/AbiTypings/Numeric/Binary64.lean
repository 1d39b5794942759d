/-!
# Binary floating-point values of 64 bits

A finite value is kept as its exact parts, a sign, a significand and an exponent of two, so that
reading a decimal and comparing values are computations on integers. A significand stays below
`2 ^ 53`, an exponent lies between `-1074` and `971`, and a significand below `2 ^ 52` occurs with
the least exponent only; zero has exponent zero.
-/

namespace AbiTypings.Numeric

/-- A binary floating-point value of 64 bits. -/
inductive Binary64 where
  /-- The value `significand * 2 ^ exponent`, negated if `negative`. Zero has two signs. -/
  | finite (negative : Bool) (significand : Nat) (exponent : Int)
  /-- A value beyond the greatest finite one. -/
  | infinite (negative : Bool)
  /-- No number. -/
  | nan
deriving DecidableEq, Repr

namespace Binary64

/-- What significands stay below: two to the power of 53. -/
def significandLimit : Nat := Nat.pow 2 53

/-- The quotient rounded to the nearest natural number, a tie to the even neighbour. -/
def roundQuotient (num den : Nat) : Nat :=
  let floor := num / den
  let twice := 2 * (num % den)
  if twice < den || (twice == den && floor % 2 == 0) then floor else floor + 1

/-- The value nearest to `num / den`, a tie to the even significand. -/
def ofRatio (negative : Bool) (num den : Nat) : Binary64 :=
  if num = 0 then finite negative 0 0
  else
    -- the quotient lies between `2 ^ (magnitude - 1)` and `2 ^ (magnitude + 1)`
    let magnitude : Int := num.log2 - den.log2
    let scaled (q : Int) : Nat × Nat := (num * Nat.pow 2 (-q).toNat, den * Nat.pow 2 q.toNat)
    let q₀ := max (magnitude - 53) (-1074)
    let q := if significandLimit ≤ (scaled q₀).1 / (scaled q₀).2 then q₀ + 1 else q₀
    let m := roundQuotient (scaled q).1 (scaled q).2
    if m = 0 then finite negative 0 0
    else
      let (m, q) := if m = significandLimit then (significandLimit / 2, q + 1) else (m, q)
      if 971 < q then infinite negative else finite negative m q

/-- The value nearest to `digits * 10 ^ exponent`. Exponents far outside the range are answered
without computing the power of ten. -/
def ofDecimal (negative : Bool) (digits : Nat) (exponent : Int) : Binary64 :=
  if digits = 0 ∨ exponent + digits.log2 < -400 then finite negative 0 0
  else if 400 < exponent then infinite negative
  else ofRatio negative (digits * Nat.pow 10 exponent.toNat) (Nat.pow 10 (-exponent).toNat)

def isZero : Binary64 → Bool
  | finite _ m _ => m == 0
  | _ => false

end Binary64

/-! ## Exact comparison -/

/-- An integer or floating-point value on one scale: an exact multiple of a power of two, one of
the infinities, or no number. -/
inductive Number where
  /-- The value `m * 2 ^ q`. -/
  | dyadic (m q : Int)
  /-- Beyond all finite values on one side. -/
  | infinite (negative : Bool)
  /-- No number: neither equal to nor less than anything. -/
  | nan
deriving DecidableEq, Repr

def Binary64.toNumber : Binary64 → Number
  | finite negative m q => .dyadic (if negative then -(m : Int) else m) q
  | infinite negative => .infinite negative
  | nan => .nan

namespace Number

/-- The multipliers of two dyadic values brought to their smaller exponent. -/
def align (m q m' q' : Int) : Int × Int :=
  let low := min q q'
  (m * Nat.pow 2 (q - low).toNat, m' * Nat.pow 2 (q' - low).toNat)

def eq : Number → Number → Bool
  | dyadic m q, dyadic m' q' => (align m q m' q').1 == (align m q m' q').2
  | infinite s, infinite s' => s == s'
  | _, _ => false

def lt : Number → Number → Bool
  | dyadic m q, dyadic m' q' => (align m q m' q').1 < (align m q m' q').2
  | dyadic _ _, infinite s => !s
  | infinite s, dyadic _ _ => s
  | infinite s, infinite s' => s && !s'
  | _, _ => false

end Number

end AbiTypings.Numeric
