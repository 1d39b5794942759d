import AbiTypings.Files.Path

/-!
# Written paths

Outputs are kept under the written form of their paths, and the paths are read off it again when
they are written to. So a path has to come back as it was (`Path.read_text`), which is true of paths
whose parts a written path can have: neither empty nor a single dot, and without slashes.
-/

namespace AbiTypings

namespace Path

/-! ## Parts of written paths -/

/-- A part that a written path can have. -/
def IsPart (part : String) : Prop := part ≠ "" ∧ part ≠ "." ∧ '/' ∉ part.toList

/-- A path that can be written. -/
def IsProper (p : Path) : Prop := ∀ part ∈ p.parts, IsPart part

theorem splitSlashes_eq_splitOn (s : List Char) : splitSlashes s = s.splitOn '/' := by
  induction s with
  | nil => rfl
  | cons c s ih =>
    rw [splitSlashes, ih, List.splitOn, List.splitOn, List.splitOnP_cons_eq_if_modifyHead]
    by_cases hc : c = '/'
    · rw [if_pos hc, if_pos (beq_iff_eq.mpr hc)]
    · rw [if_neg hc, if_neg (mt beq_iff_eq.mp hc)]
      cases hs : s.splitOnP (· == '/') with
      | nil => exact absurd hs (List.splitOnP_ne_nil _ s)
      | cons piece pieces => rfl

theorem notMem_of_mem_splitSlashes {s piece : List Char} (h : piece ∈ splitSlashes s) :
    '/' ∉ piece := by
  induction s generalizing piece with
  | nil =>
    rw [List.mem_singleton.mp h]
    exact List.not_mem_nil
  | cons c s ih =>
    rw [splitSlashes] at h
    split at h
    · rcases List.mem_cons.mp h with rfl | h
      · exact List.not_mem_nil
      · exact ih h
    · next hc =>
      have hslash : '/' ≠ c := fun e ↦ hc e.symm
      split at h
      · rw [List.mem_singleton.mp h]
        simp [hslash]
      · next first rest hs =>
        rw [hs] at ih
        rcases List.mem_cons.mp h with rfl | h
        · simp [hslash, ih List.mem_cons_self]
        · exact ih (List.mem_cons_of_mem _ h)

theorem isProper_read (text : String) : (read text).IsProper := by
  intro part hpart
  obtain ⟨hmem, hkept⟩ := List.mem_filter.mp hpart
  obtain ⟨piece, hpiece, rfl⟩ := List.mem_map.mp hmem
  obtain ⟨hempty, hdot⟩ := of_decide_eq_true hkept
  refine ⟨hempty, hdot, ?_⟩
  rw [String.toList_ofList]
  exact notMem_of_mem_splitSlashes hpiece

/-! ## Reading what was written -/

theorem readParts_intercalate {parts : List String} (hne : parts ≠ [])
    (h : ∀ part ∈ parts, IsPart part) :
    readParts ("/".intercalate parts).toList = parts := by
  have hslash : ∀ piece ∈ parts.map String.toList, '/' ∉ piece := by
    intro piece hpiece
    obtain ⟨part, hpart, rfl⟩ := List.mem_map.mp hpiece
    exact (h part hpart).2.2
  have hsplit : splitSlashes ("/".intercalate parts).toList = parts.map String.toList := by
    rw [splitSlashes_eq_splitOn, String.toList_intercalate]
    exact List.splitOn_intercalate '/' hslash (by simpa using hne)
  have hback : (parts.map String.toList).map String.ofList = parts := by
    rw [List.map_map]
    exact (List.map_congr_left fun part _ ↦ String.ofList_toList).trans (List.map_id parts)
  rw [readParts, hsplit, hback, List.filter_eq_self]
  exact fun part hpart ↦ decide_eq_true ⟨(h part hpart).1, (h part hpart).2.1⟩

theorem exists_intercalate_eq_cons {parts : List String} (hne : parts ≠ [])
    (h : ∀ part ∈ parts, IsPart part) :
    ∃ c s, ("/".intercalate parts).toList = c :: s ∧ c ≠ '/' := by
  obtain ⟨part, rest, rfl⟩ := List.exists_cons_of_ne_nil hne
  obtain ⟨hempty, -, hslash⟩ := h part List.mem_cons_self
  obtain ⟨c, s, hpart⟩ := List.exists_cons_of_ne_nil (mt String.toList_eq_nil_iff.mp hempty)
  have hjoined : ∃ more, ("/".intercalate (part :: rest)).toList = part.toList ++ more := by
    by_cases hrest : rest = []
    · exact ⟨[], by rw [hrest, String.intercalate_singleton, List.append_nil]⟩
    · exact ⟨_, by
        rw [String.intercalate_cons_of_ne_nil hrest, String.append_assoc, String.toList_append]⟩
  obtain ⟨more, hjoined⟩ := hjoined
  refine ⟨c, s ++ more, by rw [hjoined, hpart, List.cons_append], ?_⟩
  rintro rfl
  exact hslash (by rw [hpart]; exact List.mem_cons_self)

theorem readParts_cons_slash (s : List Char) : readParts ('/' :: s) = readParts s := by
  rw [readParts, splitSlashes, if_pos rfl, List.map_cons, List.filter_cons_of_neg (by decide),
    readParts]

/-- The slashes of an anchor say nothing about the parts. -/
theorem readParts_anchor_append (anchor : Anchor) (s : List Char) :
    readParts (anchor.text.toList ++ s) = readParts s := by
  cases anchor with
  | relative => rfl
  | root => exact readParts_cons_slash s
  | doubleRoot => exact (readParts_cons_slash ('/' :: s)).trans (readParts_cons_slash s)

theorem readAnchor_append_cons (anchor : Anchor) {c : Char} (hc : c ≠ '/') (s : List Char) :
    readAnchor (anchor.text.toList ++ c :: s) = anchor := by
  cases anchor <;> simp [Anchor.text, readAnchor, hc]

theorem text_of_parts (anchor : Anchor) {parts : List String} (hne : parts ≠ [])
    (h : ∀ part ∈ parts, IsPart part) :
    text ⟨anchor, parts⟩ = anchor.text ++ "/".intercalate parts := by
  obtain ⟨c, s, hjoined, -⟩ := exists_intercalate_eq_cons hne h
  rw [text, if_neg ?_]
  rw [String.isEmpty_iff, ← String.toList_eq_nil_iff, String.toList_append, hjoined]
  exact List.append_ne_nil_of_right_ne_nil _ (List.cons_ne_nil c s)

/-- **Round trip.** A path is read off its written form. -/
theorem read_text {p : Path} (h : p.IsProper) : read p.text = p := by
  obtain ⟨anchor, parts⟩ := p
  by_cases hnil : parts = []
  · subst hnil
    cases anchor <;> decide
  · have hparts := readParts_intercalate hnil h
    obtain ⟨c, s, hjoined, hc⟩ := exists_intercalate_eq_cons hnil h
    rw [read, text_of_parts anchor hnil h, String.toList_append, hjoined,
      readAnchor_append_cons anchor hc, readParts_anchor_append, ← hjoined, hparts]

theorem IsProper.child {p : Path} (h : p.IsProper) {name : String} (hname : IsPart name) :
    (p.child name).IsProper := by
  intro part hpart
  rcases List.mem_append.mp hpart with hpart | hpart
  · exact h part hpart
  · rwa [List.mem_singleton.mp hpart]

end Path

end AbiTypings
