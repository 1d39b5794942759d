import AbiTypings.Files.Search
import AbiTypings.Proofs.Files.Growth

/-!
# Searching for a suffix

A star in front of plain characters stands for the names that end in these characters
(`Wildcard.accepts_endingIn`), and behind a double star it is a search through all directories
below. The search that a run makes unless it is told otherwise is of this kind.
-/

namespace AbiTypings

namespace Wildcard

/-! ## Stars in front of plain characters -/

/-- The pattern for the names with a suffix. -/
def endingIn (suffix : List Char) : Wildcard := .star :: suffix.map .char

theorem read_plain {s : List Char} (h : isPattern s = false) : read s = s.map .char := by
  induction s with
  | nil => rw [read, List.map_nil]
  | cons c s ih =>
    rw [isPattern, List.any_cons, Bool.or_eq_false_iff, Bool.or_eq_false_iff,
      Bool.or_eq_false_iff] at h
    obtain ⟨⟨⟨hstar, hmark⟩, hbracket⟩, hrest⟩ := h
    rw [read.eq_5 c s (beq_eq_false_iff_ne.mp hstar) (beq_eq_false_iff_ne.mp hmark)
      (beq_eq_false_iff_ne.mp hbracket), ih hrest, List.map_cons]

theorem read_star_plain {suffix : List Char} (h : isPattern suffix = false) :
    read ('*' :: suffix) = endingIn suffix := by
  rw [read, read_plain h, endingIn]

theorem mem_ends_iff {s t : List Char} : t ∈ ends s ↔ t <:+ s := by
  induction s with
  | nil => rw [ends, List.mem_singleton, List.suffix_nil]
  | cons c s ih => rw [ends, List.mem_cons, ih, List.suffix_cons_iff]

theorem leaves?_char {c : Char} {s t : List Char} :
    leaves? (.char c) s = some t ↔ s = c :: t := by
  cases s with
  | nil => exact ⟨nofun, nofun⟩
  | cons d s =>
    rw [leaves?]
    constructor
    · intro h
      split at h
      · next hd => rw [hd, Option.some.inj h]
      · cases h
    · intro h
      obtain ⟨rfl, rfl⟩ := List.cons.inj h
      exact if_pos rfl

/-- Plain characters leave nothing of exactly one text. -/
theorem any_isEmpty_foldl_plain (suffix : List Char) (left : List (List Char)) :
    ((suffix.map WildcardPiece.char).foldl allLeft left).any List.isEmpty = true ↔
      suffix ∈ left := by
  induction suffix generalizing left with
  | nil =>
    rw [List.map_nil, List.foldl_nil, List.any_eq_true]
    exact ⟨fun ⟨s, hs, hempty⟩ ↦ List.isEmpty_iff.mp hempty ▸ hs, fun h ↦ ⟨[], h, rfl⟩⟩
  | cons c suffix ih =>
    rw [List.map_cons, List.foldl_cons, ih, allLeft, List.mem_filterMap]
    · constructor
      · rintro ⟨s, hs, hleft⟩
        rwa [← leaves?_char.mp hleft]
      · exact fun h ↦ ⟨_, h, leaves?_char.mpr rfl⟩
    · exact nofun

/-- **Suffixes.** A star in front of plain characters stands for the names that end in them. -/
theorem accepts_endingIn {suffix s : List Char} :
    (endingIn suffix).accepts s = true ↔ suffix <:+ s := by
  rw [accepts, endingIn, List.foldl_cons, any_isEmpty_foldl_plain, ← mem_ends_iff]
  rfl

end Wildcard

/-! ## The search for descriptions -/

/-- What a run looks for unless it is told otherwise. -/
def descriptionSteps : List SearchStep := [.anyDepth, .wildcard (.endingIn ".json".toList)]

theorem read_descriptionPattern :
    SearchPattern.read "**/*.json" = .ok ⟨descriptionSteps, false⟩ := by
  have hpath : Path.read "**/*.json" = ⟨.relative, ["**", "*.json"]⟩ := by cbv
  have hwildcard : SearchStep.read "*.json" = .ok (.wildcard (.endingIn ".json".toList)) := by
    have hstar : "*.json".toList = '*' :: ".json".toList := by decide +kernel
    rw [SearchStep.read, if_neg (by decide), if_neg (by decide), if_pos (by decide), hstar,
      Wildcard.read_star_plain (by decide)]
  have hsteps : ["**", "*.json"].mapM SearchStep.read = .ok descriptionSteps := by
    rw [List.mapM_cons, List.mapM_cons, hwildcard, List.mapM_nil]
    rfl
  rw [SearchPattern.read, hpath]
  dsimp only
  rw [if_neg (by decide), if_neg (by decide), if_neg (by decide), hsteps]
  have hlast : "**/*.json".toList.getLast? ≠ some '/' := by decide +kernel
  rw [decide_eq_false hlast]
  rfl

namespace FileTree

variable {t : FileTree} {p q : Path} {location : Location} {w : Wildcard} {paths : List Path}

/-! ## What a directory shows -/

theorem pathsBelow_of_find (h : t.find p = .ok ⟨location, some .directory⟩) :
    t.pathsBelow p = (t.directoriesBelow location).map fun way ↦ ⟨p.anchor, p.parts ++ way⟩ := by
  rw [pathsBelow, directoryAt?, h]

theorem pathsMatching_of_find (h : t.find p = .ok ⟨location, some .directory⟩) (w : Wildcard) :
    t.pathsMatching w false p = (t.entries location).filterMap fun (name, _) ↦
      if w.accepts name.toList then some (p.child name) else none := by
  rw [pathsMatching, directoryAt?, h]
  rfl

theorem pathsMatching_of_not_writable (h : ¬Writable p) (w : Wildcard) :
    t.pathsMatching w false p = [] := by
  rw [pathsMatching, directoryAt?]
  cases hfind : t.find p with
  | error fault => rfl
  | ok place => exact absurd (find_eq_ok_iff.mp hfind).1 h

theorem look_of_long (hzero : p.text.contains '\x00' = false)
    (hlong : pathLimit < p.text.utf8ByteSize) :
    t.look p = .error (.file .nameTooLong p.text) := by
  rw [look, find, if_neg (by rw [hzero]; exact Bool.false_ne_true), if_pos hlong]

/-! ## What is found -/

theorem mapM_map_eq_ok_iff {α β γ : Type} {ask : α → Except Fault β} {give : α → γ}
    {items : List α} {results : List γ} :
    items.mapM (fun a ↦ (ask a).map fun _ ↦ give a) = .ok results ↔
      (∀ a ∈ items, ∃ b, ask a = .ok b) ∧ results = items.map give := by
  induction items generalizing results with
  | nil => simp [List.mapM_nil, pure, Except.pure, eq_comm]
  | cons a rest ih =>
    rw [mapM_cons_eq_ok_iff]
    constructor
    · rintro ⟨first, others, hfirst, hothers, rfl⟩
      obtain ⟨b, hb, rfl⟩ := map_eq_ok_iff.mp hfirst
      obtain ⟨hall, rfl⟩ := ih.mp hothers
      exact ⟨List.forall_mem_cons.mpr ⟨⟨b, hb⟩, hall⟩, rfl⟩
    · rintro ⟨hall, rfl⟩
      obtain ⟨⟨b, hb⟩, hrest⟩ := List.forall_mem_cons.mp hall
      exact ⟨give a, rest.map give, map_eq_ok_iff.mpr ⟨b, hb, rfl⟩, ih.mpr ⟨hrest, rfl⟩, rfl⟩

theorem mapM_searchFrom_nil (t : FileTree) (paths : List Path) :
    paths.mapM (t.searchFrom false []) = .ok (paths.map fun p ↦ [p]) := by
  induction paths with
  | nil => rfl
  | cons p rest ih => exact mapM_cons_eq_ok_iff.mpr ⟨[p], _, rfl, ih, rfl⟩

theorem searchFrom_wildcard (t : FileTree) (w : Wildcard) (p : Path) :
    t.searchFrom false [.wildcard w] p = (t.look p).map fun _ ↦ t.pathsMatching w false p := by
  have hflatten : ((t.pathsMatching w false p).map fun q ↦ [q]).flatten
      = t.pathsMatching w false p := List.flatMap_singleton' _
  have hrun : t.searchFrom false [.wildcard w] p = t.look p >>= fun _ ↦
      (t.pathsMatching w false p).mapM (t.searchFrom false []) >>= fun found ↦
        pure found.flatten := rfl
  rw [hrun, mapM_searchFrom_nil]
  cases t.look p with
  | error fault => rfl
  | ok node? => exact congrArg Except.ok hflatten

/-- **What is found** below a path are the matching paths of all directories, one directory after
the other, and every directory has to be looked at. -/
theorem searchFrom_below_eq_ok_iff : t.searchFrom false [.anyDepth, .wildcard w] p = .ok paths ↔
    (∀ q ∈ p :: t.pathsBelow p, ∃ node?, t.look q = .ok node?) ∧
      paths = ((p :: t.pathsBelow p).flatMap (t.pathsMatching w false)).eraseDups := by
  have hrun : t.searchFrom false [.anyDepth, .wildcard w] p
      = (p :: t.pathsBelow p).mapM (fun q ↦ t.searchFrom false [.wildcard w] q >>= fun found ↦
          t.look q >>= fun _ ↦ pure found) >>= fun found ↦ pure found.flatten.eraseDups := rfl
  -- the directory is looked at twice, to the same effect
  have hstep : (fun q ↦ t.searchFrom false [.wildcard w] q >>= fun found ↦
      t.look q >>= fun _ ↦ pure found)
      = fun q ↦ (t.look q).map fun _ ↦ t.pathsMatching w false q := by
    funext q
    rw [searchFrom_wildcard]
    cases t.look q with
    | error fault => rfl
    | ok node? => rfl
  rw [hrun, hstep, bind_eq_ok_iff, List.flatMap]
  constructor
  · rintro ⟨found, hfound, h⟩
    obtain ⟨hall, rfl⟩ := mapM_map_eq_ok_iff.mp hfound
    exact ⟨hall, (Except.ok.inj h).symm⟩
  · rintro ⟨hall, rfl⟩
    exact ⟨_, mapM_map_eq_ok_iff.mpr ⟨hall, rfl⟩, rfl⟩

theorem search_descriptions (h : t.hasDirectory p = .ok true) :
    t.search (some "**/*.json") p = (t.searchFrom false descriptionSteps p).map Path.sort := by
  have hrun : t.search (some "**/*.json") p
      = ((SearchPattern.read "**/*.json").mapError Fault.pattern >>= fun pattern ↦
          t.hasDirectory p >>= fun there ↦
            if there then
              t.searchFrom pattern.directoriesOnly pattern.steps p >>= fun found ↦
                pure (Path.sort found)
            else pure []) := rfl
  have hpattern : (SearchPattern.read "**/*.json").mapError Fault.pattern
      = .ok ⟨descriptionSteps, false⟩ := mapError_eq_ok_iff.mpr read_descriptionPattern
  rw [hrun, hpattern, h]
  rfl

theorem search_descriptions_eq_ok_iff (h : t.hasDirectory p = .ok true) :
    t.search (some "**/*.json") p = .ok paths ↔
      (∀ q ∈ p :: t.pathsBelow p, ∃ node?, t.look q = .ok node?) ∧
        paths = Path.sort ((p :: t.pathsBelow p).flatMap
          (t.pathsMatching (.endingIn ".json".toList) false)).eraseDups := by
  rw [search_descriptions h, map_eq_ok_iff, descriptionSteps]
  constructor
  · rintro ⟨found, hfound, rfl⟩
    obtain ⟨hall, rfl⟩ := searchFrom_below_eq_ok_iff.mp hfound
    exact ⟨hall, rfl⟩
  · rintro ⟨hall, rfl⟩
    exact ⟨_, searchFrom_below_eq_ok_iff.mpr ⟨hall, rfl⟩, rfl⟩

/-- A search fails where it comes to a directory whose path is too long. -/
theorem search_descriptions_ne_ok (h : t.hasDirectory p = .ok true) (hq : q ∈ t.pathsBelow p)
    (hzero : q.text.contains '\x00' = false) (hlong : pathLimit < q.text.utf8ByteSize)
    (paths : List Path) : t.search (some "**/*.json") p ≠ .ok paths := by
  intro hsearch
  obtain ⟨hlooks, -⟩ := (search_descriptions_eq_ok_iff h).mp hsearch
  obtain ⟨node?, hlook⟩ := hlooks q (List.mem_cons_of_mem p hq)
  rw [look_of_long hzero hlong] at hlook
  cases hlook

end FileTree

end AbiTypings
