import AbiTypings.Sorting.Merge

/-!
# Sorting by runs

A stable sort by merging. The list is cut into runs that stand in order already; a run that falls is
turned round, and a short one is filled up by inserting what follows it. Between two neighbouring
runs there is a *border*, and its depth tells when they are merged: deeper borders go first.

Comparisons can fail, and they can contradict each other. Then there is no order to reach, and what
comes out depends on which comparisons are made. So all of them are fixed here.
-/

namespace AbiTypings.Sorting

variable {α ε : Type}

/-! ## Cutting off a run -/

/-- The number of elements that continue a run, each before (`falling`) or not before its neighbour.
The run ends with `last`. -/
def runLength (before : α → α → Except ε Bool) (falling : Bool) (last : α) :
    List α → Except ε Nat
  | [] => .ok 0
  | x :: xs => do
    if (← before x last) == falling then return (← runLength before falling x xs) + 1
    else return 0

/-- Inserts an element into a run, behind all that it does not come before. -/
def insertInto (before : α → α → Except ε Bool) (run : List α) (x : α) : Except ε (List α) := do
  let place ← bisect (testAt (fun y ↦ (before x y).map (!·)) run) 0 run.length
  return run.take place ++ x :: run.drop place

/-- The first run of a list with `x` in front, of at least the given length if there are enough
elements. -/
def firstRun (before : α → α → Except ε Bool) (least : Nat) (x : α) :
    List α → Except ε (List α)
  | [] => .ok [x]
  | y :: ys => do
    let falling ← before y x
    let n := 2 + (← runLength before falling y ys)
    let run := (x :: y :: ys).take n
    (((x :: y :: ys).take least).drop n).foldlM (insertInto before)
      (if falling then run.reverse else run)

/-- The length up to which short runs are filled up: the size of the list, halved until it is below
`64`, and rounded up. -/
def leastRun (size : Nat) : Nat :=
  let part := Nat.pow 2 (size.log2 - 5)
  (size + part - 1) / part

/-! ## Borders -/

/-- The depth of the border between two runs. When the list is halved again and again, this is the
first time that the middle of the first run and the middle of the second lie in different parts. -/
def borderDepth (size start length nextLength : Nat) : Nat :=
  let twiceMiddle := 2 * start + length
  let twiceNext := twiceMiddle + length + nextLength
  let depths := List.range (size.log2 + 1)
  (depths.find? fun n ↦
    twiceMiddle * Nat.pow 2 n / size ≠ twiceNext * Nat.pow 2 n / size).getD 0

/-- A run that is still to be merged. -/
structure Pending (α : Type) where
  /-- The number of elements before it. -/
  start : Nat
  /-- Its elements. -/
  items : List α
  /-- The depth of the border behind it. -/
  depth : Nat

/-- Merges the last run, which stands first, with those before it as long as the borders between
them are deeper than the border behind it. -/
def mergeDeeper (before : α → α → Except ε Bool) (depth patience : Nat) :
    List (Pending α) → Except ε (List (Pending α) × Nat)
  | last :: previous :: runs =>
    if depth < previous.depth then do
      let (items, patience) ← mergeRuns before patience previous.items last.items
      mergeDeeper before depth patience (⟨previous.start, items, depth⟩ :: runs)
    else .ok (⟨last.start, last.items, depth⟩ :: previous :: runs, patience)
  | [last] => .ok ([⟨last.start, last.items, depth⟩], patience)
  | [] => .ok ([], patience)
termination_by runs => runs.length

/-- Puts a run behind others, of which the last stands first, and merges what has to be merged
before it. -/
def pushRun (before : α → α → Except ε Bool) (size patience : Nat) (runs : List (Pending α))
    (items : List α) : Except ε (List (Pending α) × Nat) :=
  match runs with
  | [] => .ok ([⟨0, items, 0⟩], patience)
  | last :: _ => do
    let depth := borderDepth size last.start last.items.length items.length
    let (runs, patience) ← mergeDeeper before depth patience runs
    return (⟨last.start + last.items.length, items, 0⟩ :: runs, patience)

/-! ## The whole -/

/-- Cuts a list into runs and merges them as far as their borders ask for it. The last run stands
first. -/
def gatherRuns (before : α → α → Except ε Bool) (size patience : Nat) (runs : List (Pending α)) :
    List α → Except ε (List (Pending α) × Nat)
  | [] => .ok (runs, patience)
  | x :: xs => do
    let run ← firstRun before (leastRun size) x xs
    let (runs, patience) ← pushRun before size patience runs run
    gatherRuns before size patience runs (xs.drop (run.length - 1))
termination_by xs => xs.length
decreasing_by simp only [List.length_drop, List.length_cons]; omega

/-- Merges all runs, of which the last stands first. The middle one of the last three goes to the
shorter one of its neighbours. -/
def mergeAll (before : α → α → Except ε Bool) (patience : Nat) : List (List α) → Except ε (List α)
  | last :: middle :: first :: runs =>
    if first.length < last.length then do
      let (items, patience) ← mergeRuns before patience first middle
      mergeAll before patience (last :: items :: runs)
    else do
      let (items, patience) ← mergeRuns before patience middle last
      mergeAll before patience (items :: first :: runs)
  | [last, first] => do return (← mergeRuns before patience first last).1
  | [run] => .ok run
  | [] => .ok []
termination_by runs => runs.length

def sort (before : α → α → Except ε Bool) (xs : List α) : Except ε (List α) := do
  let (runs, patience) ← gatherRuns before xs.length worthwhile [] xs
  mergeAll before patience (runs.map Pending.items)

end AbiTypings.Sorting
