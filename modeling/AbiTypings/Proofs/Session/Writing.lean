import AbiTypings.Proofs.Files.Growth
import AbiTypings.Proofs.Session.Logging

/-!
# Writing typings

Typings are written one after the other, each with the directories on the way to it, and the first
fault ends the writing. On the files alone this is `FileTree.depositAll`; a session adds a line for
each document that is written. A document with halves has no bytes: its file is emptied, and that is
the end of the writing.

What happens to the files meanwhile is described twice. `Filled outputs t t'` is a record of single
changes, and tells what writing leaves alone even if it is cut off. That everything written is there
in the end (`stores_of_depositAll`) needs more, as a later document could replace an earlier one;
it holds where the documents have different names.
-/

namespace AbiTypings

namespace FileTree

variable {t t' t'' : FileTree} {outputs : Outputs} {location : Location}

/-! ## Writing on files -/

/-- What is put into the file of a document: its bytes, or nothing where it has none. -/
def documentBytes (document : Text) : List UInt8 := document.encode.toOption.getD []

/-- The fault of a document without bytes. -/
def encodingFault? (document : Text) : Option Fault :=
  match document.encode with
  | .ok _ => none
  | .error fault => some (.lone fault)

theorem exists_encode_of_typings {c : Contract} {document : Text}
    (hdocument : typings c = .ok document)
    (hplain : ((typings c).toOption.any fun text ↦ text.toList.all fun p ↦ !p.isHalf) = true) :
    ∃ bytes, document.encode = .ok bytes := by
  have hall : document.toList.all (fun p ↦ !p.isHalf) = true := by
    rw [hdocument] at hplain
    exact hplain
  have hnone : Text.refused? (fun _ ↦ false) 0 document.toList = none := by
    refine Text.refused?_eq_none_iff.mpr fun h hmem ↦ ?_
    cases List.all_eq_true.mp hall _ hmem
  rw [Text.encode, hnone]
  exact ⟨_, rfl⟩

theorem encodingFault?_eq_none_iff {document : Text} :
    encodingFault? document = none ↔ document.encode = .ok (documentBytes document) := by
  rw [encodingFault?, documentBytes]
  cases document.encode with
  | ok bytes => exact iff_of_true rfl rfl
  | error fault => exact iff_of_false nofun nofun

/-- The files after a document is written to a file, and the fault in doing so, if there is one. -/
def writeDocument (t : FileTree) (p : Path) (document : Text) : FileTree × Option Fault :=
  match t.write p (documentBytes document) with
  | .ok t => (t, encodingFault? document)
  | .error fault => (t, some fault)

/-- The files after a document is written to its path, with the directories on the way. -/
def deposit (t : FileTree) (output : String × Text) : FileTree × Option Fault :=
  match t.ensureDirectories (Path.read output.1).parent with
  | (t, some fault) => (t, some fault)
  | (t, none) => t.writeDocument (Path.read output.1) output.2

/-- The files after documents are written up to the first fault, and this fault. -/
def depositAll (t : FileTree) : Outputs → FileTree × Option Fault
  | [] => (t, none)
  | output :: rest =>
    match t.deposit output with
    | (t, none) => t.depositAll rest
    | (t, some fault) => (t, some fault)

/-- Files have been changed by writing documents, one change after the other. -/
inductive Filled (outputs : Outputs) : FileTree → FileTree → Prop
  /-- Nothing has been done. -/
  | refl (t : FileTree) : Filled outputs t t
  /-- Directories are made on the way to a document. -/
  | build {t t' t'' : FileTree} {output : String × Text} (h : Filled outputs t t')
      (houtput : output ∈ outputs) (hbuilt : Built (Path.read output.1).parent t' t'') :
      Filled outputs t t''
  /-- A document is put at the end of its path, where no directory is. -/
  | store {t t' : FileTree} {output : String × Text} {place : Place} (h : Filled outputs t t')
      (houtput : output ∈ outputs) (hfind : t'.find (Path.read output.1) = .ok place)
      (hnode : place.node? ≠ some .directory) :
      Filled outputs t (t'.put place.location (.file (documentBytes output.2)))

namespace Filled

theorem grows (h : Filled outputs t t') : t.Grows t' := by
  induction h with
  | refl => exact .refl _
  | build _ _ hbuilt ih => exact ih.trans hbuilt.grows
  | store _ _ hfind hnode ih =>
    rw [node?_of_find hfind] at hnode
    exact ih.trans (grows_put_file hnode _)

/-- **What writing changes.** Where something has changed, there is a new directory, or the path of
a document leads there and the file holds this document. -/
theorem changed (h : Filled outputs t t') (hne : t'.node? location ≠ t.node? location) :
    (t.node? location = none ∧ t'.node? location = some .directory) ∨
      ∃ output ∈ outputs, t'.find (Path.read output.1)
        = .ok ⟨location, some (.file (documentBytes output.2))⟩ := by
  induction h with
  | refl => exact absurd rfl hne
  | @build t' t'' output h houtput hbuilt ih =>
    by_cases hlast : t''.node? location = t'.node? location
    -- the change is an earlier one, and the path of its document leads there as before
    · rw [hlast] at hne ⊢
      refine (ih hne).imp_right fun ⟨earlier, hearlier, hfind⟩ ↦ ⟨earlier, hearlier, ?_⟩
      exact hbuilt.grows.find_of_node?_eq hfind hlast
    · obtain ⟨hnone, hnew⟩ := hbuilt.node?_of_ne hlast
      exact Or.inl ⟨h.grows.node?_eq_none hnone, hnew⟩
  | @store t' output place h houtput hfind hnode ih =>
    rw [node?_of_find hfind] at hnode
    have hgrows := grows_put_file hnode (documentBytes output.2)
    by_cases hlocation : location = place.location
    · subst hlocation
      refine Or.inr ⟨output, houtput, ?_⟩
      rw [hgrows.find hfind, t'.node?_put_self (ne_nil_of_node? hnode)]
    · have hlast := t'.node?_put_of_ne hlocation (.file (documentBytes output.2))
      rw [hlast] at hne ⊢
      refine (ih hne).imp_right fun ⟨earlier, hearlier, hfind⟩ ↦ ⟨earlier, hearlier, ?_⟩
      exact hgrows.find_of_node?_eq hfind hlast

theorem trans (h : Filled outputs t t') (h' : Filled outputs t' t'') : Filled outputs t t'' := by
  induction h' with
  | refl => exact h
  | build _ houtput hbuilt ih => exact ih.build houtput hbuilt
  | store _ houtput hfind hnode ih => exact ih.store houtput hfind hnode

theorem mono {outputs' : Outputs} (hsub : outputs ⊆ outputs') (h : Filled outputs t t') :
    Filled outputs' t t' := by
  induction h with
  | refl => exact .refl _
  | build _ houtput hbuilt ih => exact ih.build (hsub houtput) hbuilt
  | store _ houtput hfind hnode ih => exact ih.store (hsub houtput) hfind hnode

end Filled

/-- Whether or not it is cut off, writing a document only makes such changes. -/
theorem filled_deposit (t : FileTree) (output : String × Text) :
    Filled [output] t (t.deposit output).1 := by
  obtain ⟨hbuilt, -⟩ := built_ensureDirectories t (Path.read output.1).parent
  have hmade : Filled [output] t _ := (Filled.refl t).build List.mem_cons_self hbuilt
  rw [deposit]
  split
  · next hstuck =>
    rw [hstuck] at hmade
    exact hmade
  · next hthere =>
    rw [hthere] at hmade
    rw [writeDocument]
    split
    · next hwrite =>
      obtain ⟨place, hfind, hnode, rfl⟩ := write_eq_ok_iff.mp hwrite
      exact hmade.store List.mem_cons_self hfind hnode
    · exact hmade

theorem filled_depositAll (t : FileTree) (outputs : Outputs) :
    Filled outputs t (t.depositAll outputs).1 := by
  induction outputs generalizing t with
  | nil => exact .refl t
  | cons output rest ih =>
    have hfirst := (filled_deposit t output).mono (List.cons_subset_cons output rest.nil_subset)
    rw [depositAll]
    split
    · next hwritten =>
      rw [hwritten] at hfirst
      exact hfirst.trans ((ih _).mono (List.subset_cons_self output rest))
    · next hstuck =>
      rw [hstuck] at hfirst
      exact hfirst

/-! ## Everything is there -/

/-- A document has been written: its directory is there, and its file holds its bytes. -/
structure Stores (t : FileTree) (output : String × Text) : Prop where
  /-- The directory. -/
  parent : ∃ location, t.find (Path.read output.1).parent = .ok ⟨location, some .directory⟩
  /-- The file. -/
  file : ∃ location,
    t.find (Path.read output.1) = .ok ⟨location, some (.file (documentBytes output.2))⟩
  /-- The bytes are those of the document. -/
  encode : output.2.encode = .ok (documentBytes output.2)

theorem stores_of_deposit {output : String × Text} (h : t.deposit output = (t', none)) :
    t'.Stores output := by
  obtain ⟨-, hparent⟩ := built_ensureDirectories t (Path.read output.1).parent
  rw [deposit] at h
  split at h
  · cases h
  · next hthere =>
    rw [hthere] at hparent
    rw [writeDocument] at h
    split at h
    · next hwrite =>
      obtain ⟨rfl, hencodes⟩ := Prod.mk.inj h
      obtain ⟨location, hgrows, hfind, -⟩ := find_of_write hwrite
      obtain ⟨directory, hdirectory⟩ := hparent rfl
      exact ⟨⟨directory, hgrows.find_directory hdirectory⟩, ⟨location, hfind⟩,
        encodingFault?_eq_none_iff.mp hencodes⟩
    · cases h

/-- Documents have paths that end with names, and these names are distinct. -/
def NamedApart (outputs : Outputs) : Prop :=
  (∀ output ∈ outputs, (Path.read output.1).parts ≠ [] ∧ (Path.read output.1).name ≠ "..") ∧
    outputs.Pairwise fun output other ↦ (Path.read output.1).name ≠ (Path.read other.1).name

/-- A document that has been written is not touched by documents with other names. -/
theorem Stores.of_filled {output : String × Text} (h : t.Stores output)
    (hfilled : Filled outputs t t') (hapart : NamedApart (output :: outputs)) :
    t'.Stores output := by
  obtain ⟨hnames, hpairwise⟩ := hapart
  obtain ⟨hnamed, hothers⟩ := List.forall_mem_cons.mp hnames
  obtain ⟨⟨directory, hdirectory⟩, ⟨location, hfind⟩, hencode⟩ := h
  refine ⟨⟨directory, hfilled.grows.find_directory hdirectory⟩, ⟨location, ?_⟩, hencode⟩
  refine hfilled.grows.find_of_node?_eq hfind ?_
  refine Decidable.byContradiction fun hchanged ↦ ?_
  -- a file that was replaced was the place of another document, of the same name
  have hlast := getLast?_of_find hfind hnamed.1 hnamed.2
  rcases hfilled.changed hchanged with ⟨hnone, -⟩ | ⟨other, hother, hfind'⟩
  · rw [← node?_of_find hfind] at hnone
    cases hnone
  · have hlast' := getLast?_of_find hfind' (hothers other hother).1 (hothers other hother).2
    exact List.rel_of_pairwise_cons hpairwise hother (Option.some.inj (hlast.symm.trans hlast'))

/-- **What is written is there.** After documents with different names have been written, each is at
the end of its path. -/
theorem stores_of_depositAll (hapart : NamedApart outputs)
    (h : t.depositAll outputs = (t', none)) : ∀ output ∈ outputs, t'.Stores output := by
  induction outputs generalizing t with
  | nil => exact fun output houtput ↦ absurd houtput List.not_mem_nil
  | cons output rest ih =>
    rw [depositAll] at h
    split at h
    · next t₁ hwritten =>
      -- the first document outlasts the others, and the others are there by induction
      have hrest : NamedApart rest :=
        ⟨(List.forall_mem_cons.mp hapart.1).2, (List.pairwise_cons.mp hapart.2).2⟩
      refine List.forall_mem_cons.mpr ⟨?_, ih hrest h⟩
      have hfilled := filled_depositAll t₁ rest
      rw [h] at hfilled
      exact (stores_of_deposit hwritten).of_filled hfilled hapart
    · cases h

theorem depositAll_of_stores (h : ∀ output ∈ outputs, t.Stores output) :
    t.depositAll outputs = (t, none) := by
  induction outputs with
  | nil => rfl
  | cons output rest ih =>
    obtain ⟨hfirst, hrest⟩ := List.forall_mem_cons.mp h
    obtain ⟨⟨directory, hdirectory⟩, ⟨location, hfind⟩, hencode⟩ := hfirst
    have hnode : t.node? location = some (.file (documentBytes output.2)) :=
      (node?_of_find hfind).symm
    have hne : location ≠ [] := ne_nil_of_node? (by rw [hnode]; simp)
    have hwrite : t.write (Path.read output.1) (documentBytes output.2) = .ok t := by
      refine write_eq_ok_iff.mpr ⟨_, hfind, by simp, ?_⟩
      exact (put_of_node? hne hnode).symm
    have hdeposit : t.deposit output = (t, none) := by
      rw [deposit, ensureDirectories_of_find hdirectory]
      dsimp only
      rw [writeDocument, hwrite]
      dsimp only
      rw [encodingFault?_eq_none_iff.mpr hencode]
    rw [depositAll, hdeposit]
    exact ih hrest

theorem depositAll_of_makeDirectory {output : String × Text} {bytes : List UInt8}
    (hmake : t.makeDirectory (Path.read output.1).parent = .ok t')
    (hencode : output.2.encode = .ok bytes)
    (hwrite : t'.write (Path.read output.1) bytes = .ok t'') :
    t.depositAll [output] = (t'', none) := by
  have hensure : t.ensureDirectories (Path.read output.1).parent = (t', none) := by
    rw [ensureDirectories.eq_def, ensureDirectory, hmake]
  have hbytes : documentBytes output.2 = bytes := by
    rw [documentBytes, hencode]
    rfl
  rw [← hbytes] at hencode hwrite
  rw [depositAll, deposit, hensure]
  dsimp only
  rw [writeDocument, hwrite]
  dsimp only
  rw [encodingFault?_eq_none_iff.mpr hencode]
  rfl

end FileTree

/-! ## Writing in a session -/

def receipt (output : String × Text) : Text := "Written: " ++ output.1 ++ "\n"

def receipts (outputs : Outputs) : Text := Text.join (outputs.map receipt)

namespace SessionM

variable {s : Session} {t : FileTree} {p : Path} {fault : Fault}

/-- How a step on files ends in a session. -/
def endingOn (result : FileTree × Option Fault) (s : Session) : EStateM.Result Fault Session Unit :=
  match result with
  | (t, none) => .ok () { s with files := t }
  | (t, some fault) => .error fault { s with files := t }

theorem run_ensureDirectories (p : Path) (s : Session) :
    (ensureDirectories p).run s = endingOn (s.files.ensureDirectories p) s := by
  rw [ensureDirectories]
  simp only [EStateM.run_bind, EStateM.run_get]
  rcases s.files.ensureDirectories p with ⟨t, fault | fault⟩
  · rfl
  · rfl

theorem run_writeFile (p : Path) (text : Text) (s : Session) :
    (writeFile p text).run s = endingOn (s.files.writeDocument p text) s := by
  have hrun : (writeFile p text).run s
      = (MonadExcept.ofExcept (s.files.write p (FileTree.documentBytes text)) >>= fun files ↦ do
          modify fun s ↦ { s with files := files }
          match text.encode with
          | .ok _ => return ()
          | .error fault => throw (.lone fault) : SessionM Unit).run s :=
    rfl
  rw [hrun, FileTree.writeDocument, FileTree.encodingFault?]
  cases s.files.write p (FileTree.documentBytes text) with
  | error fault => rfl
  | ok t =>
    cases text.encode with
    | ok bytes => rfl
    | error fault => rfl

theorem run_writeOutputs (outputs : Outputs) (s : Session) :
    ∃ text, (writeOutputs outputs).run s
        = endingOn (s.files.depositAll outputs) { s with output := s.output ++ text } ∧
      ((s.files.depositAll outputs).2 = none → text = receipts outputs) := by
  induction outputs generalizing s with
  | nil => exact ⟨"", by rw [Text.append_empty]; rfl, fun _ ↦ rfl⟩
  | cons output rest ih =>
    have hcons : writeOutputs (output :: rest)
        = (do
            ensureDirectories (Path.read output.1).parent
            writeFile (Path.read output.1) output.2
            print ("Written: " ++ output.1) : SessionM Unit) >>= fun _ ↦ writeOutputs rest := rfl
    rw [hcons, bind_assoc, EStateM.run_bind, run_ensureDirectories, FileTree.depositAll,
      FileTree.deposit]
    rcases s.files.ensureDirectories (Path.read output.1).parent with ⟨t, fault | fault⟩
    · dsimp only [endingOn]
      rw [bind_assoc, EStateM.run_bind, run_writeFile]
      dsimp only
      rcases t.writeDocument (Path.read output.1) output.2 with ⟨t', fault | fault⟩
      · have hline : s.console.Takes ("Written: " ++ output.1) := by
          simp only [Console.takes_append_iff, Console.takes_ofString, and_self]
        have hprint : (print ("Written: " ++ output.1)).run { s with files := t' } = _ :=
          logs_print (s := { s with files := t' }) hline
        rw [Session.logged, List.append_nil] at hprint
        obtain ⟨text, htext, hreceipts⟩ := ih
          { s with files := t', output := s.output ++ ("Written: " ++ output.1 ++ "\n") }
        refine ⟨receipt output ++ text, ?_, fun hnone ↦ ?_⟩
        · rw [receipt, ← Text.append_assoc]
          dsimp only [endingOn]
          rw [EStateM.run_bind, hprint]
          exact htext
        · rw [hreceipts hnone]
          rfl
      · exact ⟨"", by rw [Text.append_empty]; rfl, fun h ↦ absurd h (Option.some_ne_none fault)⟩
    · exact ⟨"", by rw [Text.append_empty]; rfl, fun h ↦ absurd h (Option.some_ne_none fault)⟩

end SessionM

end AbiTypings
