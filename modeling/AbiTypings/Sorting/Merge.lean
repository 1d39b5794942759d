import AbiTypings.Sorting.Gallop

/-!
# Merging two runs

Two runs in order become one. What stands in its place already, at the start of the first run and at
the end of the second, is left alone. The rest is merged from that end at which the shorter of the
two runs stands.

This run is the *keeper*: merging stops as soon as a single element of it is left, since that
element goes behind all others. The other run is the *guest*. Elements are taken one by one, until
one run has won often enough in a row; from then on whole stretches are taken, found by galloping,
as long as they are long enough. How often is enough is learned: the patience falls while galloping
pays and rises when it has stopped to pay.

Comparisons can fail, and nothing is assumed about their answers.
-/

namespace AbiTypings.Sorting

variable {α ε : Type}

/-- The length from which on a stretch is worth galloping for. -/
def worthwhile : Nat := 7

/-- From which end two runs are merged, and by which comparison. -/
structure Merging (α ε : Type) where
  /-- Whether it is the front end. -/
  fromFront : Bool
  /-- Whether an element of the guest goes before one of the keeper. -/
  passes : α → α → Except ε Bool

def testAt (test : α → Except ε Bool) (xs : List α) (i : Nat) : Except ε Bool :=
  match xs[i]? with
  | some x => test x
  | none => .ok false

/-- The number of elements at the end worked from for which a test holds. The list starts at this
end, but places are counted from the front end. -/
def Merging.leading (m : Merging α ε) (test : α → Except ε Bool) (xs : List α) : Except ε Nat :=
  if m.fromFront then gallop (testAt test xs) xs.length 0
  else do
    let test := fun i ↦ negate (testAt test xs) (xs.length - 1 - i)
    return xs.length - (← gallop test xs.length (xs.length - 1))

/-- The outcome of taking a stretch from one run and one element from the other. -/
inductive Taken (α : Type) where
  /-- Everything is merged. -/
  | all (merged : List α)
  /-- What was taken, the length of the stretch, and what is left of the keeper and the guest. -/
  | some (front : List α) (length : Nat) (keeper guest : List α)

/-- Takes the elements of the keeper that go before the guest, then one of the guest. -/
def Merging.takeKeeper (m : Merging α ε) (keeper guest : List α) : Except ε (Taken α) :=
  match guest with
  | [] => .ok (.all keeper)
  | g :: guest => do
    let n ← m.leading (fun k ↦ (m.passes g k).map (!·)) keeper
    let front := keeper.take n
    match keeper.drop n with
    | [] => return .all (front ++ g :: guest)
    | [last] => return .all (front ++ g :: guest ++ [last])
    | keeper =>
      if guest.isEmpty then return .all (front ++ g :: keeper)
      else return .some (front ++ [g]) n keeper guest

/-- Takes the elements of the guest that go before the keeper, then one of the keeper. -/
def Merging.takeGuest (m : Merging α ε) (keeper guest : List α) : Except ε (Taken α) :=
  match keeper with
  | [] => .ok (.all guest)
  | k :: keeper => do
    let n ← m.leading (fun g ↦ m.passes g k) guest
    let front := guest.take n
    match guest.drop n, keeper with
    | [], keeper => return .all (front ++ k :: keeper)
    | guest, [last] => return .all (front ++ k :: guest ++ [last])
    | guest, keeper => return .some (front ++ [k]) n keeper guest

/-- How elements are being taken. -/
inductive Pace where
  /-- One by one, with the number of times each run has won in a row. -/
  | single (keeperWins guestWins : Nat)
  /-- In stretches. -/
  | galloping

/-- The merged runs behind a front, with the patience learned. -/
def behind (front : List α) (rest : Except ε (List α × Nat)) : Except ε (List α × Nat) :=
  rest.map fun (merged, patience) ↦ (front ++ merged, patience)

/-- Merges two runs, at the given pace and patience. Every step takes an element, so there are at
most as many steps as elements. -/
def Merging.run (m : Merging α ε) (steps patience : Nat) (pace : Pace) (keeper guest : List α) :
    Except ε (List α × Nat) :=
  match steps, pace, keeper, guest with
  | steps + 1, .single keeperWins guestWins, k :: keeper, g :: guest => do
    if ← m.passes g k then
      if guest.isEmpty then return (g :: k :: keeper, patience)
      else if patience ≤ guestWins + 1 then
        behind [g] (m.run steps (patience + 1) .galloping (k :: keeper) guest)
      else behind [g] (m.run steps patience (.single 0 (guestWins + 1)) (k :: keeper) guest)
    else
      match keeper with
      | [last] => return (k :: g :: guest ++ [last], patience)
      | keeper =>
        if patience ≤ keeperWins + 1 then
          behind [k] (m.run steps (patience + 1) .galloping keeper (g :: guest))
        else behind [k] (m.run steps patience (.single (keeperWins + 1) 0) keeper (g :: guest))
  | steps + 1, .galloping, keeper, guest => do
    let patience := if 1 < patience then patience - 1 else patience
    match ← if m.fromFront then m.takeKeeper keeper guest else m.takeGuest keeper guest with
    | .all merged => return (merged, patience)
    | .some front₁ n₁ keeper guest =>
      match ← if m.fromFront then m.takeGuest keeper guest else m.takeKeeper keeper guest with
      | .all merged => return (front₁ ++ merged, patience)
      | .some front₂ n₂ keeper guest =>
        behind (front₁ ++ front₂)
          (if worthwhile ≤ n₁ ∨ worthwhile ≤ n₂ then m.run steps patience .galloping keeper guest
          else m.run steps (patience + 1) (.single 0 0) keeper guest)
  | _, _, keeper, guest => .ok (keeper ++ guest, patience)

/-- Merges two runs of which the guest has the first element. -/
def Merging.start (m : Merging α ε) (patience : Nat) (keeper guest : List α) :
    Except ε (List α × Nat) :=
  match keeper, guest with
  | [last], guest => .ok (guest ++ [last], patience)
  | keeper, [g] => .ok (g :: keeper, patience)
  | keeper, g :: guest =>
    behind [g] (m.run (keeper.length + guest.length) patience (.single 0 0) keeper guest)
  | keeper, [] => .ok (keeper, patience)

/-- Merges two runs from that end at which the shorter one stands. -/
def mergeWhole (before : α → α → Except ε Bool) (patience : Nat) (left right : List α) :
    Except ε (List α × Nat) :=
  if left.length ≤ right.length then Merging.start ⟨true, before⟩ patience left right
  else
    let m : Merging α ε := ⟨false, fun g k ↦ before k g⟩
    (m.start patience right.reverse left.reverse).map fun (merged, patience) ↦
      (merged.reverse, patience)

/-- Merges two neighbouring runs. -/
def mergeRuns (before : α → α → Except ε Bool) (patience : Nat) (xs ys : List α) :
    Except ε (List α × Nat) :=
  match ys with
  | [] => .ok (xs, patience)
  | y :: _ => do
    let placed ← gallop (testAt (fun x ↦ (before y x).map (!·)) xs) xs.length 0
    let left := xs.drop placed
    match left.getLast? with
    | none => return (xs ++ ys, patience)
    | some x =>
      let unplaced ← gallop (testAt (fun y ↦ before y x) ys) ys.length (ys.length - 1)
      let right := ys.take unplaced
      if right.isEmpty then return (xs ++ ys, patience)
      else
        let (merged, patience) ← mergeWhole before patience left right
        return (xs.take placed ++ merged ++ ys.drop unplaced, patience)

end AbiTypings.Sorting
