import AbiTypings.Association
import AbiTypings.Fault
import AbiTypings.Files.Path

/-!
# File trees

What a run reads from and writes to: files and directories by their places under the root, with a
working directory. A path is followed step by step; every step but the last has to end at a
directory that is there, also before the path goes back.

Places are lists of names without `..`, and the root is the empty place. The list of nodes is only
looked up, so its order says nothing but the order in which a directory names its entries.
-/

namespace AbiTypings

/-- The names that lead from the root to a place. -/
abbrev Location := List String

/-- What can stand at a place. -/
inductive FileNode where
  /-- A file with its bytes. -/
  | file (content : List UInt8)
  /-- A directory. -/
  | directory
deriving DecidableEq, Repr

/-- Files and directories with a working directory. There are no links and no permissions: a path
leads where its parts say, and whatever is there can be read and written. -/
structure FileTree where
  /-- What stands at each place but the root. -/
  nodes : List (Location × FileNode)
  /-- The place where relative paths start. -/
  workingDirectory : Location
deriving DecidableEq, Repr

/-- Where a path ends, and what stands there. Nothing may stand in a directory that is there. -/
structure Place where
  /-- The place. -/
  location : Location
  /-- What stands there. -/
  node? : Option FileNode
deriving DecidableEq, Repr

namespace FileTree

/-! ## Looking up -/

/-- What stands at a place. -/
def node? (t : FileTree) (location : Location) : Option FileNode :=
  if location.isEmpty then some .directory else t.nodes.lookup location

/-- The greatest number of bytes in a name. -/
def nameLimit : Nat := 255

/-- The greatest number of bytes in a written path. -/
def pathLimit : Nat := 4095

/-- Where a part leads from a place. -/
def step (location : Location) (part : String) : Location :=
  if part = ".." then location.dropLast else location ++ [part]

/-- Follows the parts of a path from a place where `node` stands. -/
def walk (t : FileTree) (location : Location) (node : FileNode) :
    List String → Except FileFault Place
  | [] => .ok ⟨location, some node⟩
  | part :: parts =>
    match node with
    | .file _ => .error .notDirectory
    | .directory =>
      if nameLimit < part.utf8ByteSize then .error .nameTooLong
      else
        match t.node? (step location part) with
        | some next => t.walk (step location part) next parts
        | none =>
          if parts.isEmpty then .ok ⟨step location part, none⟩ else .error .notFound

/-- Follows a path. -/
def find (t : FileTree) (p : Path) : Except Fault Place := do
  if p.text.contains '\x00' then .error .nulInPath
  else if pathLimit < p.text.utf8ByteSize then .error (.file .nameTooLong p.text)
  else
    let start := if p.anchor = .relative then t.workingDirectory else []
    match t.node? start with
    | none => .error (.file .notFound p.text)
    | some node => (t.walk start node p.parts).mapError fun fault ↦ .file fault p.text

/-- What stands at the end of a path, as far as one can tell: where a path cannot be followed there
is nothing, but a name that is too long is a fault. -/
def look (t : FileTree) (p : Path) : Except Fault (Option FileNode) :=
  match t.find p with
  | .ok place => .ok place.node?
  | .error (.file .nameTooLong text) => .error (.file .nameTooLong text)
  | .error _ => .ok none

/-- Whether there is anything at the end of a path. -/
def has (t : FileTree) (p : Path) : Except Fault Bool := return (← t.look p).isSome

def hasFile (t : FileTree) (p : Path) : Except Fault Bool := do
  match ← t.look p with
  | some (.file _) => return true
  | _ => return false

def hasDirectory (t : FileTree) (p : Path) : Except Fault Bool :=
  return (← t.look p) == some .directory

/-- The names and nodes directly under a place. -/
def entries (t : FileTree) (location : Location) : List (String × FileNode) :=
  t.nodes.filterMap fun (place, node) ↦
    match place.getLast? with
    | some name => if place = location ++ [name] then some (name, node) else none
    | none => none

/-- The ways from a place to the directories below it. -/
def directoriesBelow (t : FileTree) (location : Location) : List (List String) :=
  t.nodes.filterMap fun (place, node) ↦
    if location.isPrefixOf place ∧ location ≠ place ∧ node = .directory then
      some (place.drop location.length)
    else none

/-! ## Reading and writing -/

def read (t : FileTree) (p : Path) : Except Fault (List UInt8) := do
  match (← t.find p).node? with
  | some (.file content) => return content
  | some .directory => .error (.file .isDirectory p.text)
  | none => .error (.file .notFound p.text)

/-- The tree with `node` at a place. -/
def put (t : FileTree) (location : Location) (node : FileNode) : FileTree :=
  { t with nodes := Association.put t.nodes location node }

theorem node?_put_self (t : FileTree) {place : Location} (h : place ≠ []) (node : FileNode) :
    (t.put place node).node? place = some node := by
  rw [node?, if_neg (mt List.isEmpty_iff.1 h)]
  exact Association.lookup_put_self t.nodes place node

theorem node?_put_of_ne (t : FileTree) {place other : Location} (h : other ≠ place)
    (node : FileNode) : (t.put place node).node? other = t.node? other := by
  rw [node?, node?, put]
  split
  · rfl
  · exact Association.lookup_put_of_ne t.nodes h node

/-- Writes a file at the end of a path. The file may be there, its directory must be. -/
def write (t : FileTree) (p : Path) (content : List UInt8) : Except Fault FileTree := do
  let place ← t.find p
  if place.node? = some .directory then .error (.file .isDirectory p.text)
  else return t.put place.location (.file content)

/-- Makes the directory at the end of a path, where nothing may stand. -/
def makeDirectory (t : FileTree) (p : Path) : Except Fault FileTree := do
  let place ← t.find p
  match place.node? with
  | some _ => .error (.file .alreadyExists p.text)
  | none => return t.put place.location .directory

/-- Makes the directory at the end of a path, unless it is there. -/
def ensureDirectory (t : FileTree) (p : Path) : Except Fault FileTree :=
  match t.makeDirectory p with
  | .ok t => .ok t
  | .error (.file .notFound text) => .error (.file .notFound text)
  | .error (.file fault text) => do
    if ← t.hasDirectory p then return t else .error (.file fault text)
  | .error fault => .error fault

/-- Makes the directory at the end of a path together with those on the way, unless they are there.
A missing step is made first, and what has been made stays when a later step fails. -/
def ensureDirectories (t : FileTree) (p : Path) : FileTree × Option Fault :=
  match t.ensureDirectory p with
  | .ok t => (t, none)
  | .error (.file .notFound text) =>
    if h : p.parts = [] then (t, some (.file .notFound text))
    else
      have : p.parent.parts.length < p.parts.length := by
        have := List.length_pos_iff.mpr h
        simp only [Path.parent, List.length_dropLast]
        omega
      match t.ensureDirectories p.parent with
      | (t, some fault) => (t, some fault)
      | (t, none) =>
        match t.ensureDirectory p with
        | .ok t => (t, none)
        | .error fault => (t, some fault)
  | .error fault => (t, some fault)
termination_by p.parts.length

end FileTree

end AbiTypings
