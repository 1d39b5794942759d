/-!
# Associations

Values under distinct keys, as a list of pairs. A key keeps the place where it first appeared, and
the last value put under it.
-/

namespace AbiTypings.Association

variable {κ α : Type} [BEq κ]

/-- The pairs with `v` under the key `k`: in the place of a pair with this key, else at the end. -/
def put (pairs : List (κ × α)) (k : κ) (v : α) : List (κ × α) :=
  match pairs with
  | [] => [(k, v)]
  | (k', w) :: rest => if k' == k then (k, v) :: rest else (k', w) :: put rest k v

variable [LawfulBEq κ]

theorem lookup_cons_of_ne {k l : κ} (h : l ≠ k) (v : α) (rest : List (κ × α)) :
    ((k, v) :: rest).lookup l = rest.lookup l := by
  rw [List.lookup_cons, beq_false_of_ne h]

theorem lookup_put_self (pairs : List (κ × α)) (k : κ) (v : α) :
    (put pairs k v).lookup k = some v := by
  induction pairs with
  | nil => exact List.lookup_cons_self
  | cons p rest ih =>
    obtain ⟨k', w⟩ := p
    rw [put]
    split
    · exact List.lookup_cons_self
    · next h =>
      have hne : k ≠ k' := fun e ↦ h (e ▸ beq_self_eq_true k)
      rw [lookup_cons_of_ne hne, ih]

theorem lookup_put_of_ne (pairs : List (κ × α)) {k l : κ} (h : l ≠ k) (v : α) :
    (put pairs k v).lookup l = pairs.lookup l := by
  induction pairs with
  | nil => exact lookup_cons_of_ne h v []
  | cons p rest ih =>
    obtain ⟨k', w⟩ := p
    rw [put]
    split
    · next hk =>
      obtain rfl : k' = k := eq_of_beq hk
      rw [lookup_cons_of_ne h, lookup_cons_of_ne h]
    · rw [List.lookup_cons, List.lookup_cons, ih]

theorem put_of_lookup {pairs : List (κ × α)} {k : κ} {v : α} (h : pairs.lookup k = some v) :
    put pairs k v = pairs := by
  induction pairs with
  | nil => cases h
  | cons p rest ih =>
    obtain ⟨k', w⟩ := p
    rw [put]
    split
    · next hk =>
      obtain rfl : k' = k := eq_of_beq hk
      rw [List.lookup_cons_self] at h
      rw [Option.some.inj h]
    · next hk =>
      have hne : k ≠ k' := fun e ↦ hk (e ▸ beq_self_eq_true k)
      rw [lookup_cons_of_ne hne] at h
      rw [ih h]

theorem put_of_lookup_eq_none {pairs : List (κ × α)} {k : κ} (h : pairs.lookup k = none) (v : α) :
    put pairs k v = pairs ++ [(k, v)] := by
  induction pairs with
  | nil => rfl
  | cons p rest ih =>
    obtain ⟨k', w⟩ := p
    rw [List.lookup_eq_none_iff] at h
    obtain ⟨hne, hrest⟩ := List.forall_mem_cons.mp h
    have hne' : ¬(k' == k) = true := fun e ↦ bne_iff_ne.mp hne (eq_of_beq e).symm
    rw [put, if_neg hne', ih (List.lookup_eq_none_iff.mpr hrest), List.cons_append]

/-- What is left out with its old value and with its new one makes no difference. -/
theorem filterMap_put {β : Type} {f : κ × α → Option β} {pairs : List (κ × α)} {k : κ} {v : α}
    (hnew : f (k, v) = none) (hold : ∀ w, pairs.lookup k = some w → f (k, w) = none) :
    (put pairs k v).filterMap f = pairs.filterMap f := by
  induction pairs with
  | nil => exact List.filterMap_cons_none hnew
  | cons p rest ih =>
    obtain ⟨k', w⟩ := p
    rw [put]
    split
    · next hk =>
      obtain rfl : k' = k := eq_of_beq hk
      rw [List.filterMap_cons_none hnew,
        List.filterMap_cons_none (hold w List.lookup_cons_self)]
    · next hk =>
      have hne : k ≠ k' := fun e ↦ hk (e ▸ beq_self_eq_true k)
      have hrest := ih fun w' hw' ↦ hold w' (by rw [lookup_cons_of_ne hne, hw'])
      rw [List.filterMap_cons, List.filterMap_cons, hrest]

theorem lookup_of_mem {pairs : List (κ × α)} {k : κ} {v : α}
    (hnodup : (pairs.map Prod.fst).Nodup) (h : (k, v) ∈ pairs) : pairs.lookup k = some v := by
  induction pairs with
  | nil => exact absurd h List.not_mem_nil
  | cons p rest ih =>
    obtain ⟨k', w⟩ := p
    rw [List.map_cons, List.nodup_cons] at hnodup
    rcases List.mem_cons.mp h with heq | hrest
    · obtain ⟨rfl, rfl⟩ := Prod.mk.inj heq
      exact List.lookup_cons_self
    · have hkey : k ∈ rest.map Prod.fst := List.mem_map_of_mem hrest
      have hne : k ≠ k' := fun e ↦ hnodup.1 (e ▸ hkey)
      rw [lookup_cons_of_ne hne, ih hnodup.2 hrest]

theorem mem_of_lookup {pairs : List (κ × α)} {k : κ} {v : α} (h : pairs.lookup k = some v) :
    (k, v) ∈ pairs := by
  obtain ⟨before, after, rfl, -⟩ := List.lookup_eq_some_iff.mp h
  exact List.mem_append_right _ List.mem_cons_self

theorem mem_keys_put {pairs : List (κ × α)} {k l : κ} {v : α} :
    l ∈ (put pairs k v).map Prod.fst ↔ l = k ∨ l ∈ pairs.map Prod.fst := by
  induction pairs with
  | nil => simp [put]
  | cons p rest ih =>
    obtain ⟨k', w⟩ := p
    rw [put]
    split
    · next hk =>
      obtain rfl : k' = k := eq_of_beq hk
      simp
    · rw [List.map_cons, List.mem_cons, ih, List.map_cons, List.mem_cons, or_left_comm]

theorem nodup_keys_put {pairs : List (κ × α)} {k : κ} {v : α}
    (hnodup : (pairs.map Prod.fst).Nodup) : ((put pairs k v).map Prod.fst).Nodup := by
  induction pairs with
  | nil => exact List.pairwise_singleton _ _
  | cons p rest ih =>
    obtain ⟨k', w⟩ := p
    rw [List.map_cons, List.nodup_cons] at hnodup
    rw [put]
    split
    · next hk =>
      obtain rfl : k' = k := eq_of_beq hk
      exact List.nodup_cons.mpr hnodup
    · next hk =>
      rw [List.map_cons, List.nodup_cons, mem_keys_put, not_or]
      exact ⟨⟨fun e ↦ hk (e ▸ beq_self_eq_true k'), hnodup.1⟩, ih hnodup.2⟩

end AbiTypings.Association
