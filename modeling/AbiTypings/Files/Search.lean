import AbiTypings.Files.Tree
import AbiTypings.Files.Wildcard

/-!
# Searching directories

A search pattern is a relative path whose parts may be wildcards; a double star as a part stands for
a directory and all directories below it. Everything but the last part is only looked for among
directories, and so is the last part if a slash follows it. A plain name is looked up and not
compared, so it can also be `..`.

The pattern is checked as a whole before any directory is looked at. Where there is no directory,
nothing is found; a directory whose path is too long cannot be looked at, which is a fault.
-/

namespace AbiTypings

/-- A part of a search pattern. -/
inductive SearchStep where
  /-- The directory itself and all directories below it. -/
  | anyDepth
  /-- The entries whose names a wildcard stands for. -/
  | wildcard (w : Wildcard)
  /-- A certain name. -/
  | name (text : String)
deriving DecidableEq, Repr

/-- A search pattern. -/
structure SearchPattern where
  /-- The parts in order. -/
  steps : List SearchStep
  /-- Whether only directories are asked for. -/
  directoriesOnly : Bool
deriving DecidableEq, Repr

/-! ## Reading -/

/-- Whether two stars stand side by side in a text. -/
def hasDoubleStar : List Char → Bool
  | '*' :: '*' :: _ => true
  | _ :: s => hasDoubleStar s
  | [] => false

def SearchStep.read (part : String) : Except PatternFault SearchStep :=
  if part = "**" then .ok .anyDepth
  else if hasDoubleStar part.toList then .error .partialRecursion
  else if Wildcard.isPattern part.toList then .ok (.wildcard (Wildcard.read part.toList))
  else .ok (.name part)

def SearchPattern.read (text : String) : Except PatternFault SearchPattern := do
  let path := Path.read text
  let directoriesOnly := text.toList.getLast? = some '/'
  if text.isEmpty then .error .empty
  else if path.anchor ≠ .relative then .error .absolute
  else if path.parts.isEmpty then
    .error (if directoriesOnly then .onlyDirectory else .noComponents)
  else return ⟨← path.parts.mapM SearchStep.read, directoriesOnly⟩

/-! ## Searching -/

namespace FileTree

/-- The place of the directory at the end of a path. -/
def directoryAt? (t : FileTree) (p : Path) : Option Location :=
  match t.find p with
  | .ok ⟨location, some .directory⟩ => some location
  | _ => none

/-- The paths of the directories below a path. -/
def pathsBelow (t : FileTree) (p : Path) : List Path :=
  match t.directoryAt? p with
  | some location => (t.directoriesBelow location).map fun way ↦ ⟨p.anchor, p.parts ++ way⟩
  | none => []

/-- The paths directly below a path whose names a wildcard stands for. -/
def pathsMatching (t : FileTree) (w : Wildcard) (directoriesOnly : Bool) (p : Path) : List Path :=
  match t.directoryAt? p with
  | some location =>
    (t.entries location).filterMap fun (name, node) ↦
      if (!directoriesOnly || node == .directory) && w.accepts name.toList then some (p.child name)
      else none
  | none => []

/-- What the rest of a search pattern finds from a path on. -/
def searchFrom (t : FileTree) (directoriesOnly : Bool) :
    List SearchStep → Path → Except Fault (List Path)
  | [], p => .ok [p]
  | step :: steps, p =>
    let inside := directoriesOnly || !steps.isEmpty
    match step with
    | .anyDepth => do
      let found ← (p :: t.pathsBelow p).mapM fun q ↦ do
        let found ← t.searchFrom directoriesOnly steps q
        let _ ← t.look q
        return found
      return found.flatten.eraseDups
    | .wildcard w => do
      let _ ← t.look p
      let found ← (t.pathsMatching w inside p).mapM (t.searchFrom directoriesOnly steps)
      return found.flatten
    | .name text => do
      let next := p.child text
      if ← (if inside then t.hasDirectory next else t.has next) then
        t.searchFrom directoriesOnly steps next
      else return []

/-- The paths below a path that a written search pattern stands for, in order. -/
def search (t : FileTree) (pattern? : Option String) (p : Path) : Except Fault (List Path) := do
  let pattern ← (pattern?.elim (.error .missing) SearchPattern.read).mapError .pattern
  if ← t.hasDirectory p then
    return Path.sort (← t.searchFrom pattern.directoriesOnly pattern.steps p)
  else return []

end FileTree

end AbiTypings
