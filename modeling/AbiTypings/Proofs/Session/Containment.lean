import Mathlib
import AbiTypings.Proofs.Contract.Acceptance
import AbiTypings.Proofs.Session.Logging

/-!
# What generating typings can end in

A document is refused while it is taken for JSON, while its description is looked for, or while the
entries are read. Every one of these faults is contained. Writing comes last and is never refused:
what was read can be written (`Contract.yields_readEntries`).

Both halves are needed by a run over a directory, which goes on after a contained fault only.
-/

namespace AbiTypings

/-! ## Texts -/

theorem yields_descriptionEntries (text : Text) :
    Yields (fun _ ↦ True) (descriptionEntries text) := by
  rw [descriptionEntries]
  have hjson : Yields (fun _ ↦ True) ((Json.read text).mapError Fault.json) := by
    cases Json.read text with
    | ok v => trivial
    | error fault => rfl
  refine hjson.bind fun v _ ↦ ?_
  cases v with
  | arr entries => trivial
  | obj members =>
    dsimp only
    split
    · trivial
    · rfl
  | _ => rfl

theorem yields_typingsOfText (name : Json) (filePath text : Text) :
    Yields (fun _ ↦ True) (typingsOfText name filePath text).result := by
  have hentries := yields_descriptionEntries text
  rw [typingsOfText]
  cases hread : descriptionEntries text with
  | error fault => exact hentries.of_error hread
  | ok entries =>
    -- Writing what has been read adds no fault of its own.
    refine (Contract.yields_readEntries name filePath entries).bind fun c hc ↦ ?_
    obtain ⟨document, hdocument⟩ := hc.exists_typings
    rw [hdocument]
    trivial

theorem typingsOfText_eq_of_readEntries {name : Json} {filePath text document : Text}
    {entries : List Json} {c : Contract} (hentries : descriptionEntries text = .ok entries)
    (hread : (Contract.readEntries name filePath entries).result = .ok c)
    (hdocument : typings c = .ok document) :
    typingsOfText name filePath text
      = ⟨(Contract.readEntries name filePath entries).notes, .ok document⟩ := by
  rw [typingsOfText, hentries]
  dsimp only
  rw [hread]
  exact congrArg (Noted.mk _) hdocument

/-- **Containment.** Generating typings gives a document or a contained fault, and adds nothing to a
session but notes. Whatever is accepted as a description has typings. -/
theorem generateText_contained (name : Json) (filePath text : Text) :
    (∀ s : Session, ∃ ds,
      (∃ document,
        (SessionM.generateText name filePath text).run s = .ok document (s.logged "" ds)) ∨
      ∃ fault, (SessionM.generateText name filePath text).run s = .error fault (s.logged "" ds) ∧
        fault.isContained = true ∧ fault.kind ∈ FaultClass.contained) ∧
    (∀ entries c, descriptionEntries text = .ok entries →
      (Contract.readEntries name filePath entries).result = .ok c →
      ∃ document, typings c = .ok document ∧
        ∀ s : Session, (SessionM.generateText name filePath text).run s
          = .ok document (s.logged "" (Contract.readEntries name filePath entries).notes)) ∧
    ∀ description c, (Contract.read name filePath description).result = .ok c →
      ∃ document, typings c = .ok document := by
  refine ⟨fun s ↦ ?_, fun entries c hentries hread ↦ ?_, fun description c hread ↦ ?_⟩
  · have hrun : (SessionM.generateText name filePath text).run s = _ :=
      SessionM.logs_generateText name filePath text
    have hcontained := yields_typingsOfText name filePath text
    refine ⟨(typingsOfText name filePath text).notes, ?_⟩
    cases hresult : (typingsOfText name filePath text).result with
    | ok document =>
      refine Or.inl ⟨document, ?_⟩
      rw [hrun, hresult]
      rfl
    | error fault =>
      have hfault := hcontained.of_error hresult
      refine Or.inr ⟨fault, ?_, hfault, Fault.kind_of_isContained hfault⟩
      rw [hrun, hresult]
      rfl
  · have hrenders := (Contract.yields_readEntries name filePath entries).of_ok hread
    obtain ⟨document, hdocument⟩ := hrenders.exists_typings
    refine ⟨document, hdocument, fun s ↦ ?_⟩
    have hrun : (SessionM.generateText name filePath text).run s = _ :=
      SessionM.logs_generateText name filePath text
    rw [hrun, typingsOfText_eq_of_readEntries hentries hread hdocument]
    rfl
  · exact ((Contract.yields_read name filePath description).of_ok hread).exists_typings

/-- A description with an accessor and an entry that is skipped. -/
private def ownerDescription : Json :=
  .arr
    [.obj
      [("name", .str "owner"), ("constant", .bool true),
        ("outputs", .arr [.obj [("type", .str "address")]])],
      .obj [("type", .str "fallback")]]

private def ownerContract : Contract :=
  ⟨.str "Vault", [], [], [⟨.str "owner", .null, .address⟩], []⟩

/-- An empty description has a document, and so has the one with an accessor. -/
theorem generateText_contained_owner :
    (∀ s : Session, ∃ document,
      (SessionM.generateText (.str "Vault") "vault.json" "[]").run s
        = .ok document (s.logged "" [])) ∧
    (Contract.read (.str "Vault") "vault.json" ownerDescription).result = .ok ownerContract ∧
    ∃ document, typings ownerContract = .ok document := by
  obtain ⟨-, htext, hdescription⟩ := generateText_contained (.str "Vault") "vault.json" "[]"
  have hentries : descriptionEntries "[]" = .ok [] := by cbv
  have howner : (Contract.read (.str "Vault") "vault.json" ownerDescription).result
      = .ok ownerContract := by
    -- All of Mathlib is imported for the equations by which `cbv` unfolds library functions.
    cbv
  obtain ⟨document, -, hrun⟩ := htext [] _ hentries rfl
  exact ⟨fun s ↦ ⟨document, hrun s⟩, howner, hdescription ownerDescription ownerContract howner⟩

end AbiTypings
