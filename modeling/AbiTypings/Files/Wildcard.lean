/-!
# Wildcards

A pattern for a single name. A star stands for any run of characters, a question mark for one
character, and a set in square brackets for one of its members, or for one that is none of them if
it starts with an exclamation mark. A bracket that is never closed stands for itself, and so does
every other character.

A closing bracket in front of a set is a member of it. A hyphen inside a set spans a range from the
character before it to the one after it. A range that runs backwards is dropped together with its
two ends; what is left of its surroundings joins up, and may then start with an exclamation mark.
-/

namespace AbiTypings

/-- The members of a set: closed ranges of characters, or all characters outside of them. -/
structure CharSet where
  /-- Whether the ranges tell what is no member. -/
  negated : Bool
  /-- The ranges. -/
  ranges : List (Char × Char)
deriving DecidableEq, Repr

/-- A part of a pattern. -/
inductive WildcardPiece where
  /-- Any run of characters. -/
  | star
  /-- Any character. -/
  | any
  /-- A member of a set. -/
  | set (s : CharSet)
  /-- A certain character. -/
  | char (c : Char)
deriving DecidableEq, Repr

/-- A pattern for a name. -/
abbrev Wildcard := List WildcardPiece

namespace CharSet

def contains (s : CharSet) (c : Char) : Bool :=
  s.negated != s.ranges.any fun r ↦ r.1 ≤ c && c ≤ r.2

/-! ## Reading

The text of a set is cut at the hyphens that span ranges: not at one in front, not at one right
behind a range, and not at one at the end. -/

/-- The stretches between hyphens that span ranges, where the first `lead` characters are not looked
at. -/
def splitRanges (lead : Nat) (s : List Char) : List (List Char) :=
  match h : (s.drop lead).dropWhile (· ≠ '-') with
  | [] => if s.isEmpty then [] else [s]
  | _ :: rest =>
    have : rest.length < s.length := by
      have := (List.dropWhile_suffix (· ≠ '-') (l := s.drop lead)).length_le
      rw [h, List.length_cons, List.length_drop] at this
      omega
    let stretch := s.take lead ++ (s.drop lead).takeWhile (· ≠ '-')
    match splitRanges 2 rest with
    | [] => [stretch ++ ['-']]
    | stretches => stretch :: stretches
termination_by s.length

/-- Drops the ranges that run backwards, from the last one on. -/
def dropBackward : List (List Char) → List (List Char)
  | [] => []
  | stretch :: rest =>
    match dropBackward rest with
    | [] => [stretch]
    | next :: more =>
      match stretch.getLast?, next.head? with
      | some low, some high =>
        if high < low then (stretch.dropLast ++ next.drop 1) :: more else stretch :: next :: more
      | _, _ => stretch :: next :: more

/-- A character of a set, or a hyphen that spans a range. -/
inductive Mark where
  /-- A character. -/
  | char (c : Char)
  /-- A hyphen that spans a range. -/
  | span
deriving DecidableEq, Repr

/-- The stretches with the hyphens between them. -/
def marks : List (List Char) → List Mark
  | [] => []
  | [stretch] => stretch.map .char
  | stretch :: rest => stretch.map .char ++ .span :: marks rest

/-- The ranges that marks stand for. A hyphen with nothing before it is a member. -/
def rangesOf : List Mark → List (Char × Char)
  | .char low :: .span :: .char high :: rest => (low, high) :: rangesOf rest
  | .char c :: rest => (c, c) :: rangesOf rest
  | .span :: rest => ('-', '-') :: rangesOf rest
  | [] => []

def read (s : List Char) : CharSet :=
  match marks (dropBackward (splitRanges (if s.head? = some '!' then 2 else 1) s)) with
  | .char '!' :: rest => ⟨true, rangesOf rest⟩
  | all => ⟨false, rangesOf all⟩

end CharSet

namespace Wildcard

/-- How many characters at the start of a set cannot close it: an exclamation mark, and a closing
bracket right behind it or in its place. -/
def leadLength (s : List Char) : Nat :=
  let sign := if s.head? = some '!' then 1 else 0
  if (s.drop sign).head? = some ']' then sign + 1 else sign

/-- The text of a set and what follows its closing bracket, if there is one. -/
def splitSet? (s : List Char) : Option (List Char × List Char) :=
  match (s.drop (leadLength s)).dropWhile (· ≠ ']') with
  | [] => none
  | _ :: rest =>
    some (s.take (leadLength s) ++ (s.drop (leadLength s)).takeWhile (· ≠ ']'), rest)

theorem length_lt_of_splitSet? {s content rest : List Char}
    (h : splitSet? s = some (content, rest)) : rest.length < s.length := by
  unfold splitSet? at h
  split at h
  · contradiction
  · next c tail htail =>
    simp only [Option.some.injEq, Prod.mk.injEq] at h
    have hs := (List.dropWhile_suffix (· ≠ ']') (l := s.drop (leadLength s))).length_le
    rw [htail, List.length_cons, List.length_drop] at hs
    rw [← h.2]
    omega

def read : List Char → Wildcard
  | [] => []
  | '*' :: s => .star :: read s
  | '?' :: s => .any :: read s
  | '[' :: s =>
    match h : splitSet? s with
    | none => .char '[' :: read s
    | some (content, rest) =>
      have := length_lt_of_splitSet? h
      .set (.read content) :: read rest
  | c :: s => .char c :: read s
termination_by s => s.length
decreasing_by all_goals simp only [List.length_cons]; omega

/-- Whether a text is a pattern and not just a name. -/
def isPattern (s : List Char) : Bool := s.any fun c ↦ c == '*' || c == '?' || c == '['

/-! ## Comparing

A pattern is compared piece by piece with all that may be left of a name by then. What is left is an
end of the name, and a star leaves every end of the longest of them. -/

/-- The ends of a text, the longest first. -/
def ends : List Char → List (List Char)
  | [] => [[]]
  | c :: s => (c :: s) :: ends s

/-- What a piece other than a star leaves of a text. -/
def leaves? (piece : WildcardPiece) (s : List Char) : Option (List Char) :=
  match piece, s with
  | .any, _ :: s => some s
  | .set m, c :: s => if m.contains c then some s else none
  | .char d, c :: s => if d = c then some s else none
  | _, _ => none

/-- What a piece leaves of ends of a text, the longest first. -/
def allLeft (left : List (List Char)) (piece : WildcardPiece) : List (List Char) :=
  match piece with
  | .star => (left.head?.map ends).getD []
  | piece => left.filterMap (leaves? piece)

/-- Whether a pattern stands for a name. -/
def accepts (w : Wildcard) (s : List Char) : Bool := (w.foldl allLeft [s]).any List.isEmpty

end Wildcard

end AbiTypings
