/-!
# Searching by galloping

A search for the place where a test on places stops holding. It starts at a given place, goes away
from it in growing strides, and halves the last stride. Where the test holds for a first stretch of
places and for none behind it, every start leads to the same answer; otherwise the start and the
strides decide, and so they are fixed here.

A test can fail, and then the search fails with it.
-/

namespace AbiTypings.Sorting

variable {ε : Type}

/-- Whether a test does not hold at a place. -/
def negate (test : Nat → Except ε Bool) (i : Nat) : Except ε Bool := (test i).map (!·)

/-- The place from `low` on and up to `high` where a test stops holding, found by halving. -/
def bisect (test : Nat → Except ε Bool) (low high : Nat) : Except ε Nat :=
  if low < high then do
    let middle := low + (high - low) / 2
    if ← test middle then bisect test (middle + 1) high else bisect test low middle
  else .ok low
termination_by high - low

/-- The last distance at which a test is known to hold and the next one, which is the first distance
at which it is known to fail or else the limit. Every stride is one longer than all before it. -/
def stride (test : Nat → Except ε Bool) (limit last next : Nat) : Except ε (Nat × Nat) :=
  if next < limit then do
    if ← test next then stride test limit next (2 * next + 1) else return (last, next)
  else .ok (last, limit)
termination_by limit - next

/-- The place among the first `size` ones where a test stops holding, searched for from `start`. -/
def gallop (test : Nat → Except ε Bool) (size start : Nat) : Except ε Nat := do
  if ← test start then
    let (last, next) ← stride (fun d ↦ test (start + d)) (size - start) 0 1
    bisect test (start + last + 1) (start + next)
  else
    let (last, next) ← stride (fun d ↦ negate test (start - d)) (start + 1) 0 1
    bisect test (start + 1 - next) (start - last)

end AbiTypings.Sorting
