import AbiTypings.Fault

/-!
# Layout

Typings are written line by line under a current indentation level. Writing can fail, and then the
level stays where it was when the fault arose: nothing is put back. Whoever starts a new document
sets the level to zero first.
-/

namespace AbiTypings

/-- The state of indentation. -/
structure Layout where
  /-- How deep the current line stands. A negative level counts as zero. -/
  level : Int := 0
  /-- What one level looks like. -/
  unit : Text := "  "
deriving DecidableEq, Repr

def Layout.indent (l : Layout) : Text := Text.join (List.replicate l.level.toNat l.unit)

/-- Writing under a layout, which can fail. A fault leaves the layout as it is. -/
abbrev LayoutM := EStateM Fault Layout

namespace LayoutM

def indent : LayoutM Text := do return (← get).indent

/-- A line at the current level. -/
def line (text : Text) : LayoutM Text := do return (← indent) ++ text

def setLevel (level : Int) : LayoutM Unit := modify fun l ↦ { l with level := level }

def deeper : LayoutM Unit := modify fun l ↦ { l with level := l.level + 1 }

/-- Comes back from one level deeper. -/
def shallower : LayoutM Unit := modify fun l ↦ { l with level := l.level - 1 }

/-- Writes something one level deeper. -/
def indented {α : Type} (write : LayoutM α) : LayoutM α := do
  deeper
  let a ← write
  shallower
  return a

end LayoutM

def joinLines (lines : List Text) : Text := Text.intercalate "\n" lines

end AbiTypings
