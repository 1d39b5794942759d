import AbiTypings.Typings.Layout

/-!
# Brackets and rows

A text is read from left to right with the brackets that are open as a stack, the innermost one on
top. `openAfter` is none as soon as a bracket is closed that is not the innermost, so a text is
properly nested if it leads from no open brackets to no open brackets.

## Rows

A row of a text stands under the brackets that are open when it starts. It is aligned if it is
indented by two blanks for each of them, those apart that its first characters close. `rowsAfter?`
reads row by row and checks the alignment of each one, so that it can be evaluated on fixed rows and
composed over the rest; `wellBracketed_joinLines` leads from there to the whole text.

## Pieces of a row

Pieces that stand inside one row and close what they open are *inline*. They can stand under any
brackets (`IsInline.openAfter_eq`), and that is how a row is put together.
-/

namespace AbiTypings.Text

abbrev lineFeed : CodePoint := .char '\n'

abbrev space : CodePoint := .char ' '

/-! ## Open brackets -/

/-- The kinds of brackets. -/
inductive Bracket where
  /-- Round brackets. -/
  | round
  /-- Square brackets. -/
  | square
  /-- Curly brackets. -/
  | curly
deriving DecidableEq, Repr

/-- The kind of bracket a character opens. -/
def opening? : CodePoint → Option Bracket
  | .char '(' => some .round
  | .char '[' => some .square
  | .char '\x7b' => some .curly
  | _ => none

/-- The kind of bracket a character closes. -/
def closing? : CodePoint → Option Bracket
  | .char ')' => some .round
  | .char ']' => some .square
  | .char '\x7d' => some .curly
  | _ => none

/-- Closes a bracket, which must be the innermost one. -/
def closeInnermost (b : Bracket) : List Bracket → Option (List Bracket)
  | [] => none
  | innermost :: outer => if innermost = b then some outer else none

/-- The brackets that are open after one more character, innermost first. -/
def openAfterChar (opened : List Bracket) (c : CodePoint) : Option (List Bracket) :=
  match opening? c, closing? c with
  | some b, _ => some (b :: opened)
  | none, none => some opened
  | none, some b => closeInnermost b opened

/-- The brackets that are open after a text, innermost first, if it closes no other than the
innermost one. -/
def openAfter (opened : List Bracket) (text : List CodePoint) : Option (List Bracket) :=
  text.foldlM openAfterChar opened

theorem openAfter_append (opened : List Bracket) (first second : List CodePoint) :
    openAfter opened (first ++ second)
      = (openAfter opened first).bind fun middle ↦ openAfter middle second :=
  List.foldlM_append

theorem openAfter_append_of_eq {opened middle : List Bracket} {first : List CodePoint}
    (h : openAfter opened first = some middle) (second : List CodePoint) :
    openAfter opened (first ++ second) = openAfter middle second := by
  rw [openAfter_append, h]
  rfl

theorem openAfter_cons (opened : List Bracket) (c : CodePoint) (text : List CodePoint) :
    openAfter opened (c :: text)
      = (openAfterChar opened c).bind fun middle ↦ openAfter middle text :=
  List.foldlM_cons

theorem openAfter_newline (opened : List Bracket) : openAfter opened [lineFeed] = some opened := rfl

theorem closeInnermost_append {b : Bracket} {opened middle : List Bracket}
    (h : closeInnermost b opened = some middle) (outer : List Bracket) :
    closeInnermost b (opened ++ outer) = some (middle ++ outer) := by
  cases opened with
  | nil => cases h
  | cons innermost rest =>
    rw [closeInnermost] at h
    rw [List.cons_append, closeInnermost]
    by_cases hb : innermost = b
    · rw [if_pos hb] at h ⊢
      rw [Option.some.inj h]
    · rw [if_neg hb] at h
      cases h

theorem openAfterChar_append {opened middle : List Bracket} {c : CodePoint}
    (h : openAfterChar opened c = some middle) (outer : List Bracket) :
    openAfterChar (opened ++ outer) c = some (middle ++ outer) := by
  unfold openAfterChar at h ⊢
  split at h
  · obtain rfl := Option.some.inj h
    rfl
  · obtain rfl := Option.some.inj h
    rfl
  · exact closeInnermost_append h outer

/-- Brackets that a text leaves alone make no difference to it. -/
theorem openAfter_frame {opened middle : List Bracket} {text : List CodePoint}
    (h : openAfter opened text = some middle) (outer : List Bracket) :
    openAfter (opened ++ outer) text = some (middle ++ outer) := by
  induction text generalizing opened with
  | nil =>
    obtain rfl : opened = middle := Option.some.inj h
    rfl
  | cons c text ih =>
    rw [openAfter_cons] at h ⊢
    obtain ⟨next, hnext, hrest⟩ := Option.bind_eq_some_iff.mp h
    rw [openAfterChar_append hnext outer]
    exact ih hrest

/-! ## Inline pieces -/

/-- A piece of a row that closes what it opens. -/
structure IsInline (s : Text) : Prop where
  /-- All brackets are closed again. -/
  nested : openAfter [] s.toList = some []
  /-- The piece stands inside one row. -/
  oneLine : lineFeed ∉ s.toList

section Inline

variable {s t : Text}

/-- An inline piece can stand under any brackets. -/
theorem IsInline.openAfter_eq (h : IsInline s) (opened : List Bracket) :
    openAfter opened s.toList = some opened :=
  openAfter_frame h.nested opened

theorem IsInline.append (hs : IsInline s) (ht : IsInline t) : IsInline (s ++ t) := by
  constructor
  · rw [toList_append, openAfter_append_of_eq hs.nested, ht.nested]
  · rw [toList_append, List.mem_append]
    exact not_or.mpr ⟨hs.oneLine, ht.oneLine⟩

theorem IsInline.enclosed {before after : Text} {b : Bracket} (h : IsInline s)
    (hbefore : openAfter [] before.toList = some [b])
    (hafter : openAfter [b] after.toList = some [])
    (hnewline : lineFeed ∉ before.toList ∧ lineFeed ∉ after.toList) :
    IsInline (before ++ s ++ after) := by
  constructor
  · rw [toList_append, toList_append, List.append_assoc,
      openAfter_append_of_eq hbefore, openAfter_append_of_eq (h.openAfter_eq [b]), hafter]
  · rw [toList_append, toList_append, List.mem_append, List.mem_append]
    exact not_or.mpr ⟨not_or.mpr ⟨hnewline.1, h.oneLine⟩, hnewline.2⟩

/-- Characters that are no brackets and no line feeds. -/
def isPlain (c : CodePoint) : Bool := (opening? c).isNone && (closing? c).isNone && c != lineFeed

theorem ne_of_all_not {p : CodePoint → Bool} {signs : List Char}
    (hsigns : (signs.all fun s ↦ !p (.char s)) = true) {c : CodePoint} (h : p c = true) :
    ∀ s ∈ signs, c ≠ .char s := by
  rintro s hs rfl
  have hother := List.all_eq_true.mp hsigns s hs
  rw [h] at hother
  cases hother

theorem isPlain_of_ne {c : CodePoint}
    (h : ∀ sign ∈ ['(', ')', '[', ']', '\x7b', '\x7d', '\n'], c ≠ .char sign) :
    isPlain c = true := by
  simp only [List.forall_mem_cons] at h
  obtain ⟨h1, h2, h3, h4, h5, h6, hnewline, -⟩ := h
  have hopening : opening? c = none := by
    unfold opening?
    split <;> simp_all
  have hclosing : closing? c = none := by
    unfold closing?
    split <;> simp_all
  simp [isPlain, hopening, hclosing, hnewline]

theorem openAfter_of_isPlain {text : List CodePoint} (h : ∀ c ∈ text, isPlain c = true)
    (opened : List Bracket) : openAfter opened text = some opened := by
  induction text with
  | nil => rfl
  | cons c text ih =>
    obtain ⟨hc, htext⟩ := List.forall_mem_cons.mp h
    simp only [isPlain, Bool.and_eq_true, Option.isNone_iff_eq_none] at hc
    have hstep : openAfterChar opened c = some opened := by
      rw [openAfterChar, hc.1.1, hc.1.2]
    rw [openAfter_cons, hstep]
    exact ih htext

theorem isInline_of_isPlain (h : ∀ c ∈ s.toList, isPlain c = true) : IsInline s := by
  constructor
  · exact openAfter_of_isPlain h []
  · intro hmem
    exact absurd (h _ hmem) (by decide)

theorem isInline_intercalate {pieces : List Text} (hs : IsInline s)
    (h : ∀ piece ∈ pieces, IsInline piece) : IsInline (s.intercalate pieces) := by
  induction pieces with
  | nil => exact ⟨rfl, List.not_mem_nil⟩
  | cons piece pieces ih =>
    obtain ⟨hpiece, hpieces⟩ := List.forall_mem_cons.mp h
    by_cases hnil : pieces = []
    · rw [hnil, intercalate_singleton]
      exact hpiece
    · rw [intercalate_cons_of_ne_nil hnil]
      exact (hpiece.append hs).append (ih hpieces)

end Inline

/-! ## Rows -/

/-- The number of blanks a row starts with. -/
def indentWidth (row : List CodePoint) : Nat := (row.takeWhile (· == space)).length

/-- The number of closing brackets a row starts with behind its blanks. -/
def leadingClosings (row : List CodePoint) : Nat :=
  ((row.dropWhile (· == space)).takeWhile fun c ↦ (closing? c).isSome).length

/-- Whether a row is indented by two blanks for each open bracket it does not start by closing. -/
def isAligned (opened : List Bracket) (row : List CodePoint) : Bool :=
  indentWidth row + 2 * leadingClosings row == 2 * opened.length

/-- The brackets that are open after a row, if it is aligned. -/
def rowAfter? (opened : List Bracket) (row : Text) : Option (List Bracket) :=
  if isAligned opened row.toList ∧ lineFeed ∉ row.toList then openAfter opened row.toList else none

/-- The brackets that are open after several rows, if all of them are aligned. -/
def rowsAfter? (opened : List Bracket) (rows : List Text) : Option (List Bracket) :=
  rows.foldlM rowAfter? opened

section Rows

variable {opened middle : List Bracket} {row : Text} {rows : List Text}

theorem rowAfter?_eq_some_iff : rowAfter? opened row = some middle ↔
    isAligned opened row.toList = true ∧ lineFeed ∉ row.toList ∧
      openAfter opened row.toList = some middle := by
  rw [rowAfter?]
  split
  · next h => simp [h.1, h.2]
  · next h =>
    constructor
    · intro hnone
      cases hnone
    · rintro ⟨haligned, hnewline, -⟩
      exact absurd ⟨haligned, hnewline⟩ h

theorem rowsAfter?_cons_eq_some_iff {closed : List Bracket} :
    rowsAfter? opened (row :: rows) = some closed ↔
      ∃ middle, rowAfter? opened row = some middle ∧ rowsAfter? middle rows = some closed := by
  rw [rowsAfter?, List.foldlM_cons]
  exact Option.bind_eq_some_iff

theorem rowsAfter?_cons {closed : List Bracket} (h : rowAfter? opened row = some middle)
    (hrows : rowsAfter? middle rows = some closed) :
    rowsAfter? opened (row :: rows) = some closed :=
  rowsAfter?_cons_eq_some_iff.mpr ⟨middle, h, hrows⟩

/-- Rows in a row: what the first ones leave open is open above the others. -/
theorem rowsAfter?_append {closed : List Bracket} {rest : List Text}
    (h : rowsAfter? opened rows = some middle) (hrest : rowsAfter? middle rest = some closed) :
    rowsAfter? opened (rows ++ rest) = some closed := by
  rw [rowsAfter?, List.foldlM_append, ← rowsAfter?, h]
  exact hrest

theorem rowsAfter?_flatMap {α : Type} {block : α → List Text} {items : List α}
    (h : ∀ item ∈ items, rowsAfter? opened (block item) = some opened) :
    rowsAfter? opened (items.flatMap block) = some opened := by
  induction items with
  | nil => rfl
  | cons item items ih =>
    obtain ⟨hitem, hitems⟩ := List.forall_mem_cons.mp h
    rw [List.flatMap_cons]
    exact rowsAfter?_append hitem (ih hitems)

theorem rowsAfter?_map {α : Type} {row : α → Text} {items : List α}
    (h : ∀ item ∈ items, rowAfter? opened (row item) = some opened) :
    rowsAfter? opened (items.map row) = some opened := by
  rw [List.map_eq_flatMap]
  exact rowsAfter?_flatMap fun item hitem ↦ rowsAfter?_cons (h item hitem) rfl

/-- A text that can stand behind the blanks of a row: it starts with neither a blank nor a closing
bracket. -/
def StartsRow (s : Text) : Prop := ∃ c rest, s.toList = c :: rest ∧ c ≠ space ∧ closing? c = none

theorem StartsRow.append {s : Text} (h : StartsRow s) (t : Text) : StartsRow (s ++ t) := by
  obtain ⟨c, rest, hs, hblank, hclosing⟩ := h
  refine ⟨c, rest ++ t.toList, ?_, hblank, hclosing⟩
  rw [toList_append, hs, List.cons_append]

theorem isAligned_blanks_append {s : Text} (h : StartsRow s) (opened : List Bracket) :
    isAligned opened (List.replicate (2 * opened.length) space ++ s.toList) = true := by
  obtain ⟨c, rest, hs, hblank, hclosing⟩ := h
  have hall : ∀ b ∈ List.replicate (2 * opened.length) (space),
      (b == space) = true := by
    intro b hb
    rw [List.eq_of_mem_replicate hb]
    rfl
  have hstop : ¬(c == space) = true := by simpa using hblank
  have hother : ¬(closing? c).isSome = true := by simp [hclosing]
  have hwidth : indentWidth (List.replicate (2 * opened.length) space ++ c :: rest)
      = 2 * opened.length := by
    rw [indentWidth, List.takeWhile_append_of_pos hall,
      List.takeWhile_cons_of_neg (p := (· == space)) hstop, List.append_nil, List.length_replicate]
  have hclosings : leadingClosings (List.replicate (2 * opened.length) space ++ c :: rest) = 0 := by
    rw [leadingClosings, List.dropWhile_append_of_pos hall,
      List.dropWhile_cons_of_neg (p := (· == space)) hstop,
      List.takeWhile_cons_of_neg (p := fun c ↦ (closing? c).isSome) hother, List.length_nil]
  rw [isAligned, hs, hwidth, hclosings]
  exact beq_self_eq_true _

/-- A row that is indented by its brackets and starts by closing none of them. -/
theorem rowAfter?_blanks_append {blanks s : Text}
    (hblanks : blanks.toList = List.replicate (2 * opened.length) space) (hstart : StartsRow s)
    (hnewline : lineFeed ∉ s.toList) (hopened : openAfter opened s.toList = some middle) :
    rowAfter? opened (blanks ++ s) = some middle := by
  have hplain : ∀ c ∈ blanks.toList, isPlain c = true := by
    intro c hc
    rw [hblanks] at hc
    rw [List.eq_of_mem_replicate hc]
    rfl
  rw [rowAfter?_eq_some_iff, toList_append]
  refine ⟨?_, ?_, ?_⟩
  · rw [hblanks]
    exact isAligned_blanks_append hstart opened
  · rw [List.mem_append]
    exact not_or.mpr ⟨(isInline_of_isPlain hplain).oneLine, hnewline⟩
  · rw [openAfter_append_of_eq (openAfter_of_isPlain hplain opened), hopened]

theorem IsInline.rowAfter? {blanks s : Text} (h : IsInline s) (hstart : StartsRow s)
    (hblanks : blanks.toList = List.replicate (2 * opened.length) space) :
    Text.rowAfter? opened (blanks ++ s) = some opened :=
  rowAfter?_blanks_append hblanks hstart h.oneLine (h.openAfter_eq opened)

/-- Rows that are aligned one by one lead to the brackets that are open after them all. -/
theorem openAfter_flatMap_of_rowsAfter? (h : rowsAfter? opened rows = some middle) :
    openAfter opened ((rows.map toList).flatMap (· ++ [lineFeed])) = some middle := by
  induction rows generalizing opened with
  | nil => exact h
  | cons row rows ih =>
    obtain ⟨next, hrow, hrows⟩ := rowsAfter?_cons_eq_some_iff.mp h
    obtain ⟨-, -, hnext⟩ := rowAfter?_eq_some_iff.mp hrow
    rw [List.map_cons, List.flatMap_cons, List.append_assoc, openAfter_append_of_eq hnext,
      openAfter_append_of_eq (openAfter_newline next), ih hrows]

end Rows

/-! ## Whole texts -/

/-- The lines of a text. -/
def lines (text : Text) : List (List CodePoint) := text.toList.splitOn (lineFeed)

/-- All brackets of a text are closed in the order opposite to that in which they are opened, and
every line is aligned under the brackets that are open at its start. -/
structure WellBracketed (text : Text) : Prop where
  /-- The brackets are balanced and properly nested. -/
  nested : openAfter [] text.toList = some []
  /-- Lines are indented by two blanks for each open bracket they do not start by closing. -/
  aligned : ∀ before line after, lines text = before ++ line :: after →
    ∃ opened, openAfter [] (before.flatMap (· ++ [lineFeed])) = some opened ∧
      indentWidth line + 2 * leadingClosings line = 2 * opened.length

/-- Joining rows and ending every row come to the same but for the end of the last one. -/
theorem intercalate_append_newline {rows : List (List CodePoint)} (h : rows ≠ []) :
    [lineFeed].intercalate rows ++ [lineFeed] = rows.flatMap (· ++ [lineFeed]) := by
  induction rows with
  | nil => exact absurd rfl h
  | cons row rows ih =>
    cases rows with
    | nil => simp
    | cons next rest =>
      rw [List.flatMap_cons, List.intercalate_cons_cons, List.append_assoc,
        ih (List.cons_ne_nil next rest)]

theorem lines_joinLines {rows : List Text} (hne : rows ≠ [])
    (h : ∀ row ∈ rows, lineFeed ∉ row.toList) : lines (joinLines rows) = rows.map toList := by
  have hrows : ∀ line ∈ rows.map toList, lineFeed ∉ line := by
    intro line hline
    obtain ⟨row, hrow, rfl⟩ := List.mem_map.mp hline
    exact h row hrow
  have hnil : rows.map toList ≠ [] := by simpa using hne
  rw [lines, joinLines, toList_intercalate]
  exact List.splitOn_intercalate (lineFeed) hrows hnil

theorem not_mem_newline_of_rowsAfter? {opened middle : List Bracket} {rows : List Text}
    (h : rowsAfter? opened rows = some middle) : ∀ row ∈ rows, lineFeed ∉ row.toList := by
  induction rows generalizing opened with
  | nil => exact fun row hrow ↦ absurd hrow List.not_mem_nil
  | cons row rows ih =>
    obtain ⟨next, hrow, hrows⟩ := rowsAfter?_cons_eq_some_iff.mp h
    exact List.forall_mem_cons.mpr ⟨(rowAfter?_eq_some_iff.mp hrow).2.1, ih hrows⟩

/-- **Rows make a text.** Aligned rows that close all brackets make a well-bracketed text. -/
theorem wellBracketed_joinLines {rows : List Text} (hne : rows ≠ [])
    (h : rowsAfter? [] rows = some []) : WellBracketed (joinLines rows) := by
  have hlines : lines (joinLines rows) = rows.map toList :=
    lines_joinLines hne (not_mem_newline_of_rowsAfter? h)
  constructor
  · -- A last line feed would change nothing, and with it all rows are ended.
    have hended := openAfter_flatMap_of_rowsAfter? h
    rw [← intercalate_append_newline (by simpa using hne), openAfter_append] at hended
    obtain ⟨middle, hmiddle, hnewline⟩ := Option.bind_eq_some_iff.mp hended
    rw [openAfter_newline] at hnewline
    obtain rfl := Option.some.inj hnewline
    rw [joinLines, toList_intercalate]
    exact hmiddle
  · intro before line after hsplit
    rw [hlines] at hsplit
    obtain ⟨rowsBefore, rest, rfl, rfl, hrest⟩ := List.map_eq_append_iff.mp hsplit
    obtain ⟨row, rowsAfter, rfl, rfl, rfl⟩ := List.map_eq_cons_iff.mp hrest
    rw [rowsAfter?, List.foldlM_append] at h
    obtain ⟨opened, hopened, hrow⟩ := Option.bind_eq_some_iff.mp h
    obtain ⟨next, hnext, -⟩ := rowsAfter?_cons_eq_some_iff.mp hrow
    have haligned := (rowAfter?_eq_some_iff.mp hnext).1
    exact ⟨opened, openAfter_flatMap_of_rowsAfter? hopened, eq_of_beq haligned⟩

end AbiTypings.Text
