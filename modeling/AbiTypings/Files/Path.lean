/-!
# Paths

A path is a way through directories, by names and by `..`, which goes back. It starts at the root or
at the working directory. Repeated slashes, single dots and slashes at the end say nothing and are
not kept; exactly two slashes in front are kept as they are, and three or more count as one.

Paths are ordered part by part, and parts by code points, so everything under a directory stands
together.
-/

namespace AbiTypings

/-- Where a path starts. -/
inductive Anchor where
  /-- At the working directory. -/
  | relative
  /-- At the root. -/
  | root
  /-- At the root, written with two slashes. -/
  | doubleRoot
deriving DecidableEq, Repr

def Anchor.text : Anchor → String
  | relative => ""
  | root => "/"
  | doubleRoot => "//"

structure Path where
  /-- Where it starts. -/
  anchor : Anchor
  /-- The names to follow. -/
  parts : List String
deriving DecidableEq, Repr

namespace Path

/-! ## Reading and writing -/

/-- The anchor of a written path. -/
def readAnchor : List Char → Anchor
  | '/' :: '/' :: '/' :: _ => .root
  | '/' :: '/' :: _ => .doubleRoot
  | '/' :: _ => .root
  | _ => .relative

/-- The pieces of a text between slashes. -/
def splitSlashes : List Char → List (List Char)
  | [] => [[]]
  | c :: s =>
    if c = '/' then [] :: splitSlashes s
    else
      match splitSlashes s with
      | [] => [[c]]
      | piece :: pieces => (c :: piece) :: pieces

/-- The parts of a written path. -/
def readParts (s : List Char) : List String :=
  ((splitSlashes s).map String.ofList).filter fun part ↦ part ≠ "" ∧ part ≠ "."

def read (text : String) : Path := ⟨readAnchor text.toList, readParts text.toList⟩

/-- The written form of a path. The working directory itself is a dot. -/
def text (p : Path) : String :=
  let written := p.anchor.text ++ "/".intercalate p.parts
  if written.isEmpty then "." else written

/-! ## Parts -/

def child (p : Path) (name : String) : Path := ⟨p.anchor, p.parts ++ [name]⟩

/-- The path of the directory that holds a path; the root and the working directory stand for
themselves. -/
def parent (p : Path) : Path := ⟨p.anchor, p.parts.dropLast⟩

/-- The last part, empty if there is none. -/
def name (p : Path) : String := p.parts.getLastD ""

theorem name_child (p : Path) (name : String) : (p.child name).name = name := by
  rw [child, Path.name, List.getLastD_concat]

theorem getLast_parts {p : Path} (h : p.parts ≠ []) : p.parts.getLast h = p.name := by
  rw [name, List.getLastD_eq_getLast?, List.getLast?_eq_some_getLast h, Option.getD_some]

theorem name_mem_parts {p : Path} (h : p.parts ≠ []) : p.name ∈ p.parts := by
  rw [← getLast_parts h]
  exact List.getLast_mem h

/-- The last part up to its last dot. A dot at its start or its end does not count. -/
def stem (p : Path) : String :=
  let back := p.name.toList.reverse
  let suffix := back.takeWhile (· ≠ '.')
  let front := (back.dropWhile (· ≠ '.')).drop 1
  if suffix.isEmpty || front.isEmpty then p.name else String.ofList front.reverse

/-! ## Order -/

/-- What paths are ordered by. -/
def sortKey (p : Path) : List String :=
  if p.anchor = .relative then p.parts else p.anchor.text :: p.parts

def sort (paths : List Path) : List Path :=
  paths.mergeSort fun p q ↦ !decide (q.sortKey < p.sortKey)

end Path

end AbiTypings
