import AbiTypings.Proofs.Text.Brackets

/-!
# Reading the fields of a record

The fields of a record type are separated by commas, and so are the fields of the records inside
them. A reader has to tell the two apart by the brackets: a comma separates fields exactly where no
bracket is open. `pieces?` reads a text in this way for any separator, without knowing what stands
in between, and `recordFields?` reads a record with it.

The text between two separators is a *piece*: it closes the brackets it opens and has no separator
outside of them. What is read are pieces (`isPiece_of_pieces?`), and pieces joined by separators are
read again (`pieces?_intercalate`). So the fields of a record are read as they were written exactly
if the type of every field is a piece (`recordFields?_eq_iff`), whatever else is in it.
-/

namespace AbiTypings.Text

abbrev comma : CodePoint := .char ','

abbrev colon : CodePoint := .char ':'

/-! ## Pieces -/

/-- The brackets that are open after one more character of a piece. A separator where none is open
is no part of a piece. -/
def afterPieceChar (separator : CodePoint) (opened : List Bracket) (c : CodePoint) :
    Option (List Bracket) :=
  if c = separator ∧ opened = [] then none else openAfterChar opened c

/-- The brackets that are open after a text as part of a piece. -/
def afterPiece (separator : CodePoint) (opened : List Bracket) (s : List CodePoint) :
    Option (List Bracket) :=
  s.foldlM (afterPieceChar separator) opened

/-- A text closes the brackets it opens, in order, and has no separator outside of them. -/
def IsPiece (separator : CodePoint) (s : List CodePoint) : Prop :=
  afterPiece separator [] s = some []

instance (separator : CodePoint) (s : List CodePoint) : Decidable (IsPiece separator s) :=
  inferInstanceAs (Decidable (_ = _))

/-- The pieces of a text between the separators where no bracket is open, if the text closes the
brackets it opens; `opened` are open where it starts. -/
def pieces? (separator : CodePoint) (opened : List Bracket) :
    List CodePoint → Option (List (List CodePoint))
  | [] => if opened = [] then some [[]] else none
  | c :: rest =>
    if c = separator ∧ opened = [] then (pieces? separator [] rest).map ([] :: ·)
    else (openAfterChar opened c).bind fun next ↦
      (pieces? separator next rest).map (List.modifyHead (c :: ·))

section Pieces

variable {separator : CodePoint} {opened next : List Bracket} {c : CodePoint} {s t : List CodePoint}

theorem afterPiece_cons (opened : List Bracket) (c : CodePoint) (s : List CodePoint) :
    afterPiece separator opened (c :: s)
      = (afterPieceChar separator opened c).bind fun next ↦ afterPiece separator next s :=
  List.foldlM_cons

theorem afterPiece_append (opened : List Bracket) (s t : List CodePoint) :
    afterPiece separator opened (s ++ t)
      = (afterPiece separator opened s).bind fun next ↦ afterPiece separator next t :=
  List.foldlM_append

theorem afterPieceChar_of_ne (h : c ≠ separator) (opened : List Bracket) :
    afterPieceChar separator opened c = openAfterChar opened c := if_neg fun hsign ↦ h hsign.1

theorem afterPieceChar_append_cons {b : Bracket} (h : openAfterChar opened c = some next)
    (outer : List Bracket) :
    afterPieceChar separator (opened ++ b :: outer) c = some (next ++ b :: outer) := by
  rw [afterPieceChar, if_neg fun hsign ↦ List.append_ne_nil_of_right_ne_nil _
    (List.cons_ne_nil b outer) hsign.2]
  exact openAfterChar_append h (b :: outer)

/-- Under an open bracket, a text that closes what it opens is part of a piece. -/
theorem afterPiece_append_cons {b : Bracket} (h : openAfter opened s = some next)
    (outer : List Bracket) :
    afterPiece separator (opened ++ b :: outer) s = some (next ++ b :: outer) := by
  induction s generalizing opened with
  | nil =>
    obtain rfl : opened = next := Option.some.inj h
    rfl
  | cons c s ih =>
    rw [openAfter_cons] at h
    obtain ⟨middle, hmiddle, hrest⟩ := Option.bind_eq_some_iff.mp h
    rw [afterPiece_cons, afterPieceChar_append_cons hmiddle outer]
    exact ih hrest

theorem afterPiece_of_isPlain (h : ∀ c ∈ s, isPlain c = true ∧ c ≠ separator)
    (opened : List Bracket) : afterPiece separator opened s = some opened := by
  induction s with
  | nil => rfl
  | cons c s ih =>
    obtain ⟨⟨hc, hne⟩, hs⟩ := List.forall_mem_cons.mp h
    have hstep : openAfterChar opened c = some opened := by
      have hone : openAfter opened [c] = some opened :=
        openAfter_of_isPlain (by simpa using hc) opened
      simpa [openAfter_cons, openAfter] using hone
    rw [afterPiece_cons, afterPieceChar_of_ne hne, hstep]
    exact ih hs

theorem isPiece_append_iff (h : ∀ c ∈ s, isPlain c = true ∧ c ≠ separator) :
    IsPiece separator (s ++ t) ↔ IsPiece separator t := by
  rw [IsPiece, afterPiece_append, afterPiece_of_isPlain h, IsPiece]
  rfl

theorem isPiece_enclosed {b : Bracket} {before after : List CodePoint}
    (hbefore : afterPiece separator [] before = some [b]) (h : openAfter [] s = some [])
    (hafter : afterPiece separator [b] after = some []) :
    IsPiece separator (before ++ s ++ after) := by
  have hinside : afterPiece separator [b] s = some [b] := afterPiece_append_cons h []
  rw [IsPiece, afterPiece_append, afterPiece_append, hbefore, Option.bind_some, hinside,
    Option.bind_some, hafter]

/-- Part of a piece in front of a text is part of the first piece of the whole. -/
theorem pieces?_append (h : afterPiece separator opened s = some next) (t : List CodePoint) :
    pieces? separator opened (s ++ t)
      = (pieces? separator next t).map (List.modifyHead (s ++ ·)) := by
  induction s generalizing opened with
  | nil =>
    obtain rfl : opened = next := Option.some.inj h
    have hid : List.modifyHead (([] : List CodePoint) ++ ·) = id := by
      funext pieces
      cases pieces <;> rfl
    rw [hid, Option.map_id, id_eq, List.nil_append]
  | cons c s ih =>
    rw [afterPiece_cons] at h
    obtain ⟨middle, hmiddle, hrest⟩ := Option.bind_eq_some_iff.mp h
    rw [afterPieceChar] at hmiddle
    split at hmiddle
    · cases hmiddle
    · next hsign =>
      rw [List.cons_append, pieces?, if_neg hsign, hmiddle, Option.bind_some, ih hrest,
        Option.map_map]
      congr 1
      funext pieces
      cases pieces <;> rfl

theorem pieces?_append_cons (h : IsPiece separator s) (t : List CodePoint) :
    pieces? separator [] (s ++ separator :: t) = (pieces? separator [] t).map (s :: ·) := by
  rw [pieces?_append h, pieces?, if_pos ⟨rfl, rfl⟩, Option.map_map]
  congr 1
  funext pieces
  simp

theorem pieces?_intercalate {piece : List CodePoint} {pieces : List (List CodePoint)}
    (hpiece : IsPiece separator piece) (h : ∀ p ∈ pieces, IsPiece separator p) :
    pieces? separator [] ([separator].intercalate (piece :: pieces)) = some (piece :: pieces) := by
  induction pieces generalizing piece with
  | nil =>
    have hread := pieces?_append hpiece []
    rw [List.append_nil] at hread
    rw [List.intercalate_singleton, hread]
    simp [pieces?]
  | cons next pieces ih =>
    obtain ⟨hnext, hpieces⟩ := List.forall_mem_cons.mp h
    rw [List.intercalate_cons_cons, List.append_assoc, List.singleton_append,
      pieces?_append_cons hpiece, ih hnext hpieces, Option.map_some]

/-- What is read are pieces, the first of them behind the brackets that are open before. -/
theorem isPiece_of_pieces? {pieces : List (List CodePoint)}
    (h : pieces? separator opened s = some pieces) :
    ∃ first rest, pieces = first :: rest ∧ afterPiece separator opened first = some [] ∧
      ∀ p ∈ rest, IsPiece separator p := by
  induction s generalizing opened pieces with
  | nil =>
    rw [pieces?] at h
    split at h
    · next hopened =>
      rw [hopened]
      exact ⟨[], [], (Option.some.inj h).symm, rfl, List.forall_mem_nil _⟩
    · cases h
  | cons c s ih =>
    rw [pieces?] at h
    split at h
    · next hsign =>
      obtain ⟨others, hothers, rfl⟩ := Option.map_eq_some_iff.mp h
      obtain ⟨first, rest, rfl, hfirst, hrest⟩ := ih hothers
      refine ⟨[], first :: rest, rfl, ?_, List.forall_mem_cons.mpr ⟨hfirst, hrest⟩⟩
      rw [hsign.2]
      rfl
    · next hsign =>
      obtain ⟨next, hnext, h⟩ := Option.bind_eq_some_iff.mp h
      obtain ⟨others, hothers, rfl⟩ := Option.map_eq_some_iff.mp h
      obtain ⟨first, rest, rfl, hfirst, hrest⟩ := ih hothers
      refine ⟨c :: first, rest, rfl, ?_, hrest⟩
      rw [afterPiece_cons, afterPieceChar, if_neg hsign, hnext]
      exact hfirst

end Pieces

/-! ## Fields -/

abbrev Field := Text × Text

/-- Reads a field: a blank, a name up to the first colon, and a type behind it. -/
def field? : List CodePoint → Option Field
  | .char ' ' :: s =>
    match s.dropWhile (· ≠ colon) with
    | .char ':' :: .char ' ' :: type => some (⟨s.takeWhile (· ≠ colon)⟩, ⟨type⟩)
    | _ => none
  | _ => none

/-- What stands in a record between its brackets, without the blank in front of the last one. -/
def recordBody? : List CodePoint → Option (List CodePoint)
  | .char '\x7b' :: s =>
    if [space, .char '\x7d'] <:+ s then some (s.take (s.length - 2)) else none
  | _ => none

/-- Reads the fields of a record. -/
def recordFields? (text : Text) : Option (List Field) := do
  let body ← recordBody? text.toList
  let pieces ← pieces? comma [] body
  pieces.mapM field?

section Fields

variable {f : Field} {fields : List Field}

/-- A field with the blank in front of it. -/
def fieldPiece (f : Field) : List CodePoint :=
  space :: (f.1.toList ++ colon :: space :: f.2.toList)

/-- A name that can stand in front of a colon: it has neither brackets nor commas nor colons. -/
def IsFieldName (name : Text) : Prop :=
  ∀ c ∈ name.toList, isPlain c = true ∧ c ≠ comma ∧ c ≠ colon

theorem field?_fieldPiece (h : IsFieldName f.1) : field? (fieldPiece f) = some f := by
  have hname : ∀ c ∈ f.1.toList, decide (c ≠ colon) = true := fun c hc ↦ decide_eq_true (h c hc).2.2
  rw [fieldPiece, field?]
  simp only [List.dropWhile_append_of_pos hname, List.takeWhile_append_of_pos hname]
  simp

theorem eq_fieldPiece_of_field? {piece : List CodePoint} (h : field? piece = some f) :
    piece = fieldPiece f := by
  unfold field? at h
  split at h
  · next s =>
    split at h
    · next type htype =>
      obtain rfl := Option.some.inj h
      have hparts := List.takeWhile_append_dropWhile (p := fun c ↦ decide (c ≠ colon)) (l := s)
      rw [htype] at hparts
      rw [fieldPiece, hparts]
    · cases h
  · cases h

theorem isPiece_fieldPiece_iff (h : IsFieldName f.1) :
    IsPiece comma (fieldPiece f) ↔ IsPiece comma f.2.toList := by
  have hplain : ∀ c ∈ space :: (f.1.toList ++ [colon, space]), isPlain c = true ∧ c ≠ comma := by
    have hsigns : ∀ c ∈ [colon, space], isPlain c = true ∧ c ≠ comma :=
      List.forall_mem_cons.mpr ⟨by decide, List.forall_mem_singleton.mpr (by decide)⟩
    refine List.forall_mem_cons.mpr ⟨by decide, fun c hc ↦ ?_⟩
    rcases List.mem_append.mp hc with hc | hc
    · exact ⟨(h c hc).1, (h c hc).2.1⟩
    · exact hsigns c hc
  have hsplit : fieldPiece f = (space :: (f.1.toList ++ [colon, space])) ++ f.2.toList := by
    simp [fieldPiece]
  rw [hsplit, isPiece_append_iff hplain]

theorem mapM_field?_iff {pieces : List (List CodePoint)} (h : ∀ f ∈ fields, IsFieldName f.1) :
    pieces.mapM field? = some fields ↔ pieces = fields.map fieldPiece := by
  induction pieces generalizing fields with
  | nil =>
    cases fields <;> simp
  | cons piece pieces ih =>
    rw [List.mapM_cons]
    constructor
    · intro hfields
      obtain ⟨f, hf, hrest⟩ := Option.bind_eq_some_iff.mp hfields
      obtain ⟨others, hothers, hcons⟩ := Option.bind_eq_some_iff.mp hrest
      obtain rfl := Option.some.inj hcons
      rw [eq_fieldPiece_of_field? hf, (ih (List.forall_mem_cons.mp h).2).mp hothers, List.map_cons]
    · intro hmap
      obtain ⟨f, others, rfl, rfl, rfl⟩ := List.map_eq_cons_iff.mp hmap.symm
      obtain ⟨hf, hothers⟩ := List.forall_mem_cons.mp h
      rw [field?_fieldPiece hf, (ih hothers).mpr rfl]
      rfl

/-! ## Records -/

theorem recordBody?_append (body : List CodePoint) :
    recordBody? (.char '\x7b' :: (body ++ [space, .char '\x7d'])) = some body := by
  rw [recordBody?, if_pos (List.suffix_append _ _)]
  simp

/-- The blank behind a comma belongs to what follows. -/
private theorem cons_intercalate (first : List CodePoint) (rest : List (List CodePoint)) :
    space :: [comma, space].intercalate (first :: rest)
      = [comma].intercalate ((first :: rest).map (space :: ·)) := by
  induction rest generalizing first with
  | nil => rfl
  | cons next rest ih =>
    rw [List.map_cons, List.map_cons, List.intercalate_cons_cons, List.intercalate_cons_cons,
      ← List.map_cons, ← ih]
    simp

theorem toList_record (fields : List Field) (hne : fields ≠ []) :
    ("\x7b " ++ Text.intercalate ", " (fields.map fun f ↦ f.1 ++ ": " ++ f.2) ++ " \x7d").toList
      = .char '\x7b' ::
        ([comma].intercalate (fields.map fieldPiece) ++ [space, .char '\x7d']) := by
  obtain ⟨first, rest, rfl⟩ := List.exists_cons_of_ne_nil hne
  have htexts : (first :: rest).map fieldPiece
      = (((first :: rest).map fun (f : Field) ↦ f.1 ++ ": " ++ f.2).map toList).map
        (space :: ·) := by
    simp [fieldPiece, toList_append, toList_ofString]
  rw [htexts, List.map_cons, List.map_cons, ← cons_intercalate, toList_append, toList_append,
    toList_intercalate, List.map_cons]
  rfl

/-- **Reading a record.** The fields of a record are read as they are written exactly if every type
is a piece, where the names have no brackets, commas and colons. -/
theorem recordFields?_eq_iff (hne : fields ≠ []) (h : ∀ f ∈ fields, IsFieldName f.1) :
    recordFields?
        ("\x7b " ++ Text.intercalate ", " (fields.map fun f ↦ f.1 ++ ": " ++ f.2) ++ " \x7d")
      = some fields ↔ ∀ f ∈ fields, IsPiece comma f.2.toList := by
  have hread : recordFields?
      ("\x7b " ++ Text.intercalate ", " (fields.map fun f ↦ f.1 ++ ": " ++ f.2) ++ " \x7d")
      = (pieces? comma [] ([comma].intercalate (fields.map fieldPiece))).bind fun pieces ↦
          pieces.mapM field? := by
    rw [recordFields?, toList_record fields hne, recordBody?_append]
    rfl
  have hpieces : (∀ f ∈ fields, IsPiece comma f.2.toList) ↔
      ∀ p ∈ fields.map fieldPiece, IsPiece comma p := by
    rw [List.forall_mem_map]
    exact forall₂_congr fun f hf ↦ (isPiece_fieldPiece_iff (h f hf)).symm
  rw [hread, hpieces]
  constructor
  · intro hfields
    obtain ⟨pieces, hsplit, hmap⟩ := Option.bind_eq_some_iff.mp hfields
    rw [mapM_field?_iff h] at hmap
    obtain ⟨first, rest, hcons, hfirst, hrest⟩ := isPiece_of_pieces? hsplit
    rw [← hmap, hcons]
    exact List.forall_mem_cons.mpr ⟨hfirst, hrest⟩
  · intro hall
    obtain ⟨first, rest, rfl⟩ := List.exists_cons_of_ne_nil hne
    rw [List.map_cons] at hall ⊢
    obtain ⟨hfirst, hrest⟩ := List.forall_mem_cons.mp hall
    rw [pieces?_intercalate hfirst hrest, Option.bind_some, mapM_field?_iff h, List.map_cons]

end Fields

end AbiTypings.Text
