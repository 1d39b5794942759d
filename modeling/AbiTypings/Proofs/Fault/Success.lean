import AbiTypings.Fault

/-!
# Steps that succeed

Reading is a sequence of steps each of which can fail. That the whole succeeds tells that every step
did, and what each of them gave; these lemmas take a success apart step by step. They say nothing
about faults, for which see the judgement `Yields`.
-/

namespace AbiTypings

variable {α β : Type}

theorem bind_eq_ok_iff {step : Except Fault α} {next : α → Except Fault β} {b : β} :
    step >>= next = .ok b ↔ ∃ a, step = .ok a ∧ next a = .ok b := by
  constructor
  · intro h
    cases step with
    | ok a => exact ⟨a, rfl, h⟩
    | error fault => cases h
  · rintro ⟨a, rfl, h⟩
    exact h

theorem mapError_eq_ok_iff {ε : Type} {step : Except ε α} {f : ε → Fault} {a : α} :
    step.mapError f = .ok a ↔ step = .ok a := by
  constructor
  · intro h
    cases step with
    | ok b => rw [Except.ok.inj h]
    | error fault => cases h
  · rintro rfl
    rfl

theorem map_eq_ok_iff {step : Except Fault α} {f : α → β} {b : β} :
    step.map f = .ok b ↔ ∃ a, step = .ok a ∧ f a = b := by
  cases step with
  | ok a => simp [Except.map]
  | error fault => simp [Except.map]

theorem mapM_cons_eq_ok_iff {read : α → Except Fault β} {item : α} {rest : List α}
    {results : List β} : (item :: rest).mapM read = .ok results ↔
      ∃ first others, read item = .ok first ∧ rest.mapM read = .ok others ∧
        results = first :: others := by
  rw [List.mapM_cons, bind_eq_ok_iff]
  constructor
  · rintro ⟨first, hfirst, h⟩
    obtain ⟨others, hothers, h⟩ := bind_eq_ok_iff.mp h
    exact ⟨first, others, hfirst, hothers, (Except.ok.inj h).symm⟩
  · rintro ⟨first, others, hfirst, hothers, rfl⟩
    exact ⟨first, hfirst, bind_eq_ok_iff.mpr ⟨others, hothers, rfl⟩⟩

theorem map_eq_map_of_mapM {γ : Type} {read : α → Except Fault β} {f : β → γ} {g : α → γ}
    (hread : ∀ item result, read item = .ok result → f result = g item) {items : List α}
    {results : List β} (h : items.mapM read = .ok results) : results.map f = items.map g := by
  induction items generalizing results with
  | nil =>
    obtain rfl : [] = results := Except.ok.inj h
    rfl
  | cons item rest ih =>
    obtain ⟨first, others, hfirst, hothers, rfl⟩ := mapM_cons_eq_ok_iff.mp h
    rw [List.map_cons, List.map_cons, hread item first hfirst, ih hothers]

theorem length_of_mapM {read : α → Except Fault β} {items : List α}
    {results : List β} (h : items.mapM read = .ok results) : results.length = items.length := by
  have hmap := map_eq_map_of_mapM (f := fun _ ↦ ()) (g := fun _ ↦ ()) (fun _ _ _ ↦ rfl) h
  simpa using congrArg List.length hmap

end AbiTypings
