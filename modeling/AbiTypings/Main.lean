import AbiTypings.CommandLine.Program

/-!
# Command line

The files a run can look at are read first, then the program runs on them, and at last its files are
written and its texts are printed. Standard output takes no halves that stand alone. Nothing else is
decided here.
-/

namespace AbiTypings.CommandLine

/-- Splits an absolute path into names. -/
def locationOf (path : String) : Location := (Path.read path).parts

/-- The places a path goes through, from `start` on. -/
def placesAlong (start : Location) (parts : List String) : List Location :=
  (parts.foldl (fun (places, here) part ↦
    let next := FileTree.step here part
    (next :: places, next)) ([start], start)).1

/-- The places that lead to a place, itself included. -/
def placesAbove (location : Location) : List Location :=
  (List.range (location.length + 1)).map location.take

/-- A place as an entry of the root directory. -/
def entryAt (location : Location) : IO.FS.DirEntry := ⟨"/", "/".intercalate location⟩

/-- What stands at a place; files are left unread. -/
def probe (location : Location) : IO (Option FileNode) := do
  try
    match (← (entryAt location).path.metadata).type with
    | .dir => return some .directory
    | .file => return some (.file [])
    | _ => return none
  catch _ => return none

/-- The places below a directory with what stands there. Links are not followed. -/
partial def scan (location : Location) : IO (List (Location × FileNode)) := do
  let mut nodes := []
  for entry in (← try (entryAt location).path.readDir catch _ => pure #[]) do
    let place := location ++ [entry.fileName]
    match (← entry.path.symlinkMetadata).type with
    | .dir => nodes := nodes ++ (place, .directory) :: (← scan place)
    | .file => nodes := nodes ++ [(place, .file [])]
    | _ => pure ()
  return nodes

/-- The tree with the bytes of a file at a place. -/
def load (t : FileTree) (location : Location) : IO FileTree := do
  match t.node? location with
  | some (.file _) =>
    let bytes ← IO.FS.readBinFile (entryAt location).path
    return t.put location (.file bytes.toList)
  | _ => return t

/-- The files a run can look at: what stands along the paths it is given, and below its input. Only
files that are searched for are read. -/
def snapshot (a : Arguments) (settings : Settings) (here : Location) : IO FileTree := do
  let input := Path.read a.input
  let start (p : Path) : Location := if p.anchor = .relative then here else []
  let backs := ((Path.read (settings.pattern?.getD "")).parts.filter (· = "..")).length
  let along := placesAlong (start input) input.parts
  let output := settings.outputDirectory
  let places := (along ++ placesAlong (start output) output.parts).flatMap placesAbove
  let mut tree : FileTree := ⟨[], here⟩
  for place in places.eraseDups do
    match ← probe place with
    | some node => tree := tree.put place node
    | none => pure ()
  match tree.find input with
  | .ok ⟨location, some .directory⟩ =>
    for (place, node) in ← scan (location.take (location.length - backs)) do
      tree := tree.put place node
    match tree.search settings.pattern? input with
    | .ok found =>
      for file in found do
        match tree.find file with
        | .ok place => tree ← load tree place.location
        | .error _ => pure ()
      return tree
    | .error _ => return tree
  | .ok ⟨location, some (.file _)⟩ => load tree location
  | _ => return tree

/-- Writes what a run has changed. -/
def store (before after : FileTree) : IO Unit := do
  for (place, node) in after.nodes do
    if before.node? place ≠ some node then
      match node with
      | .directory => IO.FS.createDir (entryAt place).path
      | .file content => IO.FS.writeBinFile (entryAt place).path ⟨content.toArray⟩

end AbiTypings.CommandLine

open AbiTypings CommandLine in
/-- Runs the program on the files of the machine. -/
def main (arguments : List String) : IO UInt32 := do
  let here := locationOf (toString (← IO.currentDir))
  let files ← match Arguments.read arguments with
    | .ok a =>
      match a.settings with
      | .ok settings => snapshot a settings here
      | .error _ => pure ⟨[], here⟩
    | .error _ => pure ⟨[], here⟩
  let outcome := runProgram "abi2ts" (fun _ ↦ false) arguments files
  store files outcome.files
  IO.print outcome.output.escapeHalves
  IO.eprint outcome.errors.escapeHalves
  match outcome.status with
  | .ok status => return status.toUInt32
  | .error fault =>
    IO.eprintln fault.message.escapeHalves
    return 1
