import AbiTypings.Diagnostic.Basic
import AbiTypings.Fault
import AbiTypings.Sorting.Runs

/-!
# Summaries of diagnostics

Warnings are counted by construct, in the order of the constructs: texts by code points, numbers and
truth values by size. A construct that says nothing counts under `other`. Sequences and objects
cannot be counted, and texts have no order beside numbers, so a summary can fail.

Texts have an order, and so every stable sort leads to the same summary. Among other constructs
there may be none: the value that is no number comes neither before nor behind another one. What the
summary looks like then, and which two constructs a fault names, is up to the comparisons made, and
so their groups are sorted by runs.
-/

namespace AbiTypings

/-! ## Groups -/

/-- A construct with what is counted under it. -/
abbrev Group := Json × List Diagnostic

/-- The construct under which a note is counted. -/
def Diagnostic.group (d : Diagnostic) : Json := d.construct.orElse (.str "other")

/-- Adds a note to the first group with its construct, or as a new group at the end. -/
def addToGroups (d : Diagnostic) : List Group → List Group
  | [] => [(d.group, [d])]
  | (key, ds) :: rest =>
    if key.same d.group then (key, ds ++ [d]) :: rest else (key, ds) :: addToGroups d rest

/-- Whether notes can be counted under a value. -/
def Json.groupable : Json → Bool
  | .arr _ => false
  | .obj _ => false
  | _ => true

/-- The groups of notes, in the order of their first notes. -/
def groupNotes (ds : List Diagnostic) : Except Fault (List Group) :=
  ds.foldlM (fun groups d ↦
    if d.group.groupable then .ok (addToGroups d groups)
    else .error (.ungroupable d.group.kind)) []

/-! ## Order -/

/-- Whether one construct comes before another. -/
def Json.before (v w : Json) : Except Fault Bool :=
  match v, w with
  | .str s, .str t => .ok (s < t)
  | v, w =>
    match v.number?, w.number? with
    | some x, some y => .ok (x.lt y)
    | _, _ => .error (.unordered v.kind w.kind)

def isNamed : Group → Bool
  | (.str _, _) => true
  | _ => false

/-- Whether a construct may stand in front of another one in a summary. -/
def Json.notBehind (v w : Json) : Bool :=
  match w.before v with
  | .ok behind => !behind
  | .error _ => true

/-- The groups in the order of their constructs. -/
def sortGroups (groups : List Group) : Except Fault (List Group) :=
  if groups.all isNamed then .ok (groups.mergeSort fun g h ↦ g.1.notBehind h.1)
  else Sorting.sort (fun g h ↦ g.1.before h.1) groups

/-! ## Texts -/

/-- The line of a group, with the lines of its notes if they are asked for. -/
def groupLines (verbose : Bool) (g : Group) : List Text :=
  ("  " ++ g.1.display ++ ": " ++ toString g.2.length ++ " occurrence(s)") ::
    if verbose then g.2.map fun d ↦ "    " ++ d.line else []

/-- What a report consists of: the lines, and the fault that cut it off, if there is one. -/
structure Report where
  /-- The lines. -/
  lines : List Text
  /-- The fault. -/
  fault? : Option Fault

/-- The report on notes. Warnings are counted; in full, every warning is listed under its group, and
the other notes follow. -/
def report (verbose : Bool) (ds : List Diagnostic) : Report :=
  let warnings := ds.filter Diagnostic.isWarning
  let infos := ds.filter fun d ↦ !d.isWarning
  let heading (title : String) (ds : List Diagnostic) : List Text :=
    ["", title ++ " (" ++ toString ds.length ++ "):"]
  let infoLines :=
    if verbose && !infos.isEmpty then
      heading "Generator info" infos ++ infos.map fun d ↦ ("  " ++ d.line : Text)
    else []
  if warnings.isEmpty then ⟨infoLines, none⟩
  else
    let first := heading "Generator warnings" warnings
    match groupNotes warnings >>= sortGroups with
    | .error fault => ⟨first, some fault⟩
    | .ok groups => ⟨first ++ groups.flatMap (groupLines verbose) ++ infoLines, none⟩

/-- The warnings in one line. -/
def summaryLine (ds : List Diagnostic) : Except Fault Text := do
  let warnings := ds.filter Diagnostic.isWarning
  if warnings.isEmpty then return "No generator warnings."
  else
    let groups ← sortGroups (← groupNotes warnings)
    let parts : List Text := groups.map fun g ↦ toString g.2.length ++ " " ++ g.1.display
    return "Generator warnings: " ++ Text.intercalate ", " parts

end AbiTypings
