import AbiTypings.Proofs.Files.Growth
import AbiTypings.Proofs.Files.WrittenPath

/-!
# Detours

A path can go into a directory and back as often as it likes. It leads where the short path leads,
but it is longer, and so are the paths to everything below its end. Where the short path ends well
within the limit, the detour can be such that some of what is below can be reached and some cannot.
-/

namespace AbiTypings

/-- A way to a directory that goes into another one and back, again and again. -/
def detour : Nat → List String
  | 0 => ["in"]
  | n + 1 => "d" :: ".." :: detour n

def detourText : Nat → String
  | 0 => "in"
  | n + 1 => "d/../" ++ detourText n

/-- The path of something below the end of a detour. -/
def detourPath (n : Nat) (more : List String) : Path := ⟨.relative, detour n ++ more⟩

variable {n : Nat} {more : List String}

/-! ## The written path -/

theorem detour_append_ne_nil (n : Nat) (more : List String) : detour n ++ more ≠ [] := by
  cases n with
  | zero => exact List.cons_ne_nil _ _
  | succ n => exact List.cons_ne_nil _ _

theorem isPart_of_mem_detour (hmore : ∀ part ∈ more, Path.IsPart part) :
    ∀ part ∈ detour n ++ more, Path.IsPart part := by
  have hpart : Path.IsPart "in" ∧ Path.IsPart "d" ∧ Path.IsPart ".." := by
    simp only [Path.IsPart]
    decide
  induction n with
  | zero => exact List.forall_mem_cons.mpr ⟨hpart.1, hmore⟩
  | succ n ih =>
    exact List.forall_mem_cons.mpr ⟨hpart.2.1, List.forall_mem_cons.mpr ⟨hpart.2.2, ih⟩⟩

theorem intercalate_detour (n : Nat) (more : List String) :
    "/".intercalate (detour (n + 1) ++ more) = "d/../" ++ "/".intercalate (detour n ++ more) := by
  have hjoined : "/".intercalate ("d" :: ".." :: (detour n ++ more))
      = "d" ++ "/" ++ (".." ++ "/" ++ "/".intercalate (detour n ++ more)) := by
    rw [String.intercalate_cons_cons,
      String.intercalate_cons_of_ne_nil (detour_append_ne_nil n more)]
  have hleft : "d/../" = "d" ++ "/" ++ ".." ++ "/" := by decide
  rw [detour, List.cons_append, List.cons_append, hjoined, hleft]
  simp only [String.append_assoc]

theorem text_detourPath (hmore : ∀ part ∈ more, Path.IsPart part) :
    (detourPath n more).text = "/".intercalate (detour n ++ more) := by
  rw [detourPath, Path.text_of_parts _ (detour_append_ne_nil n more) (isPart_of_mem_detour hmore),
    Anchor.text, String.empty_append]

theorem size_detourPath (n : Nat) (hmore : ∀ part ∈ more, Path.IsPart part) :
    (detourPath n more).text.utf8ByteSize
      = 5 * n + ("/".intercalate ("in" :: more)).utf8ByteSize := by
  rw [text_detourPath hmore]
  induction n with
  | zero => rw [detour, List.cons_append, List.nil_append, Nat.mul_zero, Nat.zero_add]
  | succ n ih =>
    have hsize : "d/../".utf8ByteSize = 5 := by decide
    rw [intercalate_detour, String.utf8ByteSize_append, ih, hsize]
    omega

theorem contains_detourPath (n : Nat) (hmore : ∀ part ∈ more, Path.IsPart part)
    (hzero : '\x00' ∉ ("/".intercalate ("in" :: more)).toList) :
    (detourPath n more).text.contains '\x00' = false := by
  rw [text_detourPath hmore, String.contains_char_eq, decide_eq_false_iff_not]
  induction n with
  | zero => exact hzero
  | succ n ih =>
    rw [intercalate_detour, String.toList_append, List.mem_append, not_or]
    exact ⟨by decide, ih⟩

theorem writable_detourPath (hmore : ∀ part ∈ more, Path.IsPart part)
    (hzero : '\x00' ∉ ("/".intercalate ("in" :: more)).toList)
    (hshort : 5 * n + ("/".intercalate ("in" :: more)).utf8ByteSize ≤ FileTree.pathLimit) :
    FileTree.Writable (detourPath n more) :=
  ⟨contains_detourPath n hmore hzero, by rwa [size_detourPath n hmore]⟩

theorem text_detourPath_nil (n : Nat) : (detourPath n []).text = detourText n := by
  have hnone : ∀ part ∈ ([] : List String), Path.IsPart part := by simp
  induction n with
  | zero =>
    rw [text_detourPath hnone, List.append_nil, detour, String.intercalate_singleton, detourText]
  | succ n ih =>
    rw [text_detourPath hnone] at ih ⊢
    rw [intercalate_detour, ih, detourText]

theorem read_detourText (n : Nat) : Path.read (detourText n) = detourPath n [] := by
  have hproper : (detourPath n []).IsProper := isPart_of_mem_detour (by simp)
  rw [← text_detourPath_nil, Path.read_text hproper]

/-! ## Where it leads -/

theorem walk_detour {t : FileTree} (hd : t.node? ["d"] = some .directory) (n : Nat)
    (more : List String) :
    t.walk [] .directory (detour n ++ more) = t.walk [] .directory ("in" :: more) := by
  induction n with
  | zero => rfl
  | succ n ih =>
    have hthere : t.walk [] .directory ("d" :: ".." :: (detour n ++ more))
        = t.walk ["d"] .directory (".." :: (detour n ++ more)) := by
      have hstep : FileTree.step [] "d" = ["d"] := by decide
      rw [FileTree.walk, if_neg (by decide), hstep, hd]
    -- one turn goes into the other directory and comes back to where it started
    have hback : t.walk ["d"] .directory (".." :: (detour n ++ more))
        = t.walk [] .directory (detour n ++ more) := by
      have hstep : FileTree.step ["d"] ".." = [] := by decide
      have hroot : t.node? [] = some .directory := rfl
      rw [FileTree.walk, if_neg (by decide), hstep, hroot]
    rw [detour, List.cons_append, List.cons_append, hthere, hback, ih]

theorem find_detour {t : FileTree} {place : Place} (hd : t.node? ["d"] = some .directory)
    (hstart : t.workingDirectory = []) (hwritable : FileTree.Writable (detourPath n more))
    (hwalk : t.walk [] .directory ("in" :: more) = .ok place) :
    t.find (detourPath n more) = .ok place := by
  have hroot : t.start (detourPath n more) = [] := hstart
  refine FileTree.find_eq_ok_iff.mpr ⟨hwritable, .directory, ?_, ?_⟩
  · rw [hroot]
    rfl
  · rw [hroot, detourPath, walk_detour hd, hwalk]

end AbiTypings
