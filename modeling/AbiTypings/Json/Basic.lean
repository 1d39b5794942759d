import AbiTypings.Numeric.Binary64
import AbiTypings.Text.Basic

/-!
# JSON values

Interface descriptions come from many tools, and any member of an entry can turn out to be any
value. So names and kinds are kept as the values they were read as, and this type is shared by the
whole library.

Members of an object keep the order in which their keys first appeared. Integers and floating-point
numbers are different values that can still be the same number.
-/

namespace AbiTypings

open Numeric

inductive Json where
  /-- The null value. -/
  | null
  /-- A truth value. -/
  | bool (b : Bool)
  /-- A number written without fraction and exponent. -/
  | int (n : Int)
  /-- A number written with a fraction or an exponent. -/
  | float (x : Binary64)
  /-- A text. -/
  | str (s : Text)
  /-- A sequence of values. -/
  | arr (items : List Json)
  /-- Values under distinct keys. -/
  | obj (members : List (Text × Json))

namespace Json

/-- The word for the kind of a value in messages. -/
def kind : Json → String
  | null => "NoneType"
  | bool _ => "bool"
  | int _ => "int"
  | float _ => "float"
  | str _ => "str"
  | arr _ => "list"
  | obj _ => "dict"

/-- Whether a value says something: null, false, zero and everything empty do not. -/
def truthy : Json → Bool
  | null => false
  | bool b => b
  | int n => n != 0
  | float x => !x.isZero
  | str s => !s.isEmpty
  | arr items => !items.isEmpty
  | obj members => !members.isEmpty

/-- The value, or the other one if the value says nothing. -/
def orElse (v w : Json) : Json := if v.truthy then v else w

def string? : Json → Option String
  | str s => s.string?
  | _ => none

/-- The place of a value on the number line, where truth values count as zero and one. -/
def number? : Json → Option Number
  | bool b => some (.dyadic (if b then 1 else 0) 0)
  | int n => some (.dyadic n 0)
  | float x => some x.toNumber
  | _ => none

/-! ## Sameness

Two values are the same if they are built alike from the same texts and numbers. The order of
members does not count, and neither does the way a number is written. -/

mutual

/-- Whether two values are the same. -/
def same : Json → Json → Bool
  | null, null => true
  | str s, str t => s == t
  | arr xs, arr ys => sameItems xs ys
  | obj ms, obj ns => ms.length == ns.length && sameMembers ms ns
  | v, w =>
    match v.number?, w.number? with
    | some x, some y => x.eq y || (x == .nan && y == .nan)
    | _, _ => false

def sameItems : List Json → List Json → Bool
  | [], [] => true
  | x :: xs, y :: ys => same x y && sameItems xs ys
  | _, _ => false

/-- Whether every member of the first list has a counterpart in the second. -/
def sameMembers : List (Text × Json) → List (Text × Json) → Bool
  | [], _ => true
  | (k, v) :: ms, ns =>
    match ns.lookup k with
    | some w => same v w && sameMembers ms ns
    | none => false

end

end Json

end AbiTypings
