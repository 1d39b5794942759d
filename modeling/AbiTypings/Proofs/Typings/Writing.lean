import AbiTypings.Typings.Layout

/-!
# Steps of writing that leave no trace

A step that succeeds comes back from every level it has gone to, so the layout after it is the one
before it. `LayoutM.Writes` says this together with what the step gives. The lemmas below compose
such steps in the ways the library does; they hold under every layout, so a member of a class is
described once for all levels it can stand at.
-/

namespace AbiTypings

/-- The layout one level deeper. -/
def Layout.deeper (l : Layout) : Layout := { l with level := l.level + 1 }

namespace LayoutM

variable {α β : Type} {l : Layout}

/-- A step gives `a` under a layout and leaves the layout as it was. -/
def Writes (write : LayoutM α) (l : Layout) (a : α) : Prop := write.run l = .ok a l

theorem writes_pure (a : α) : Writes (pure a) l a := rfl

theorem Writes.bind {write : LayoutM α} {next : α → LayoutM β} {a : α} {b : β}
    (h : Writes write l a) (hnext : Writes (next a) l b) : Writes (write >>= next) l b := by
  rw [Writes, EStateM.run_bind, h]
  exact hnext

theorem writes_line (text : Text) : Writes (line text) l (l.indent ++ text) := rfl

theorem writes_row {blanks s row : String} (hindent : l.indent = blanks)
    (hrow : blanks ++ s = row) : Writes (line s) l row := by
  rw [← hrow, Text.ofString_append, ← hindent]
  exact writes_line s

theorem writes_ofExcept {result : Except Fault α} {a : α} (h : result = .ok a) :
    Writes (MonadExcept.ofExcept result) l a := by
  rw [h]
  rfl

/-- Going deeper and coming back cancel, because the step between them changes nothing. -/
theorem Writes.indented {write : LayoutM α} {a : α} (h : Writes write l.deeper a) :
    Writes (LayoutM.indented write) l a := by
  have hback : { l.deeper with level := l.deeper.level - 1 } = l := by
    rw [Layout.deeper, Int.add_sub_cancel]
  calc (LayoutM.indented write).run l
      = (write >>= fun a ↦ shallower >>= fun _ ↦ pure a).run l.deeper := rfl
    _ = (shallower >>= fun _ ↦ pure a : LayoutM α).run l.deeper := by
        rw [EStateM.run_bind, h]
    _ = .ok a { l.deeper with level := l.deeper.level - 1 } := rfl
    _ = .ok a l := by rw [hback]

theorem writes_mapM {write : α → LayoutM β} {text : α → β} {items : List α}
    (h : ∀ item ∈ items, Writes (write item) l (text item)) :
    Writes (items.mapM write) l (items.map text) := by
  induction items with
  | nil => exact writes_pure []
  | cons item items ih =>
    rw [List.mapM_cons, List.map_cons]
    refine (h item List.mem_cons_self).bind ?_
    have htail := ih fun other hother ↦ h other (List.mem_cons_of_mem item hother)
    exact htail.bind (writes_pure _)

theorem writes_rows {blanks : String} (hindent : l.indent = blanks) (lines : List String) :
    Writes ((lines.map Text.ofString).mapM line) l
      ((lines.map (blanks ++ ·)).map Text.ofString) := by
  rw [List.mapM_map, List.map_map]
  exact writes_mapM fun s _ ↦ writes_row hindent rfl

theorem writes_mapM_line (texts : List Text) :
    Writes (texts.mapM line) l (texts.map (l.indent ++ ·)) :=
  writes_mapM fun text _ ↦ writes_line text

end LayoutM

end AbiTypings
