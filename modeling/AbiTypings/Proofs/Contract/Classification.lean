import AbiTypings.Contract.Entry
import AbiTypings.Proofs.Fault.Success

/-!
# The group an entry belongs to

`classify` asks an entry for one part after the other and stops at the first that it cannot use.
`entryGroup` looks at the members of an entry and never fails; it counts only what stands in lists.
On entries that are accepted the two agree, and what each group has to offer there is collected in
`Declares`.

## What counts as a list

A value that says nothing stands for no parameters, whatever its kind, and a text or an object can
be counted and walked through like a list. But the parts of a text and the keys of an object are no
parameters, so reading them fails, and what is accepted is a list or says nothing
(`orElse_eq_items_of_readAll`). That is why `classify`, which counts first, and `entryGroup` cannot
disagree about an accepted entry.
-/

namespace AbiTypings

/-! ## Members and items -/

namespace Json

/-- The member of a value under a key, and the default where there is none. -/
def memberOr (v : Json) (key : Text) (default : Json) : Json :=
  match v with
  | obj members => (members.lookup key).getD default
  | _ => default

/-- The items of a list, none for any other value. -/
def items : Json → List Json
  | arr items => items
  | _ => []

theorem memberOr_of_require {members : List (Text × Json)} {key : Text} {v : Json}
    (h : (obj members).require key = .ok v) (default : Json) :
    (obj members).memberOr key default = v := by
  rw [require] at h
  split at h
  · next w hlookup =>
    obtain rfl := Except.ok.inj h
    rw [memberOr, hlookup, Option.getD_some]
  · cases h

theorem string?_eq_some_iff {v : Json} {word : String} :
    v.string? = some word ↔ v = .str word := by
  cases v with
  | str s => rw [string?, Text.string?_eq_some_iff, str.injEq]
  | _ => simp [string?]

/-- Words have no halves, so a value that is one of them is a string. -/
theorem isText_map_ofString_iff {v : Json} {words : List String} :
    v.isText (words.map Text.ofString) = true ↔ ∃ word ∈ words, v.string? = some word := by
  cases v with
  | str s => simp [isText, string?, Text.string?_eq_some_iff, @eq_comm _ s]
  | _ => simp [isText, string?]

theorem items_eq_nil_of_truthy_eq_false {v : Json} (h : v.truthy = false) : v.items = [] := by
  cases v with
  | arr items => exact List.isEmpty_iff.mp (Bool.not_eq_eq_eq_not.mp h)
  | _ => rfl

end Json

/-! ## Groups -/

/-- What an accepted entry is read as. -/
inductive EntryGroup where
  /-- A function that may change the state. -/
  | function
  /-- A function that only reads the state, and has inputs or a number of outputs other than one. -/
  | constantFunction
  /-- A function that only reads the state, without inputs and with exactly one output. -/
  | accessor
  /-- An event. -/
  | event
  /-- Nothing. -/
  | skipped
deriving DecidableEq, Repr

/-- What an entry says it is, a function if it says nothing. -/
def declaredKind (entry : Json) : Json := entry.memberOr "type" (.str "function")

/-- Whether the flag or the mutability of an entry says that it only reads the state. -/
def readsOnly (entry : Json) : Bool :=
  (entry.memberOr "constant" .null).truthy ||
    (entry.memberOr "stateMutability" .null).isText ["view", "pure"]

def inputCount (entry : Json) : Nat := (entry.memberOr "inputs" .null).items.length

def outputCount (entry : Json) : Nat := (entry.memberOr "outputs" .null).items.length

/-- The group of an entry. -/
def entryGroup (entry : Json) : EntryGroup :=
  match (declaredKind entry).string? with
  | some "function" =>
    if !readsOnly entry then .function
    else if inputCount entry = 0 ∧ outputCount entry = 1 then .accessor
    else .constantFunction
  | some "event" => .event
  | _ => .skipped

/-- The note on an entry that is skipped. -/
def skippedNote (filePath : Text) (entry : Json) : Diagnostic :=
  let kind := declaredKind entry
  if kind.isText ["constructor", "fallback", "receive"] then .ignoredEntry kind filePath
  else .unsupportedEntry kind (entry.memberOr "name" (.str "")) filePath

theorem code_skippedNote (filePath : Text) (entry : Json) :
    (skippedNote filePath entry).code = "I001" ∨ (skippedNote filePath entry).code = "W001" := by
  rw [skippedNote]
  split
  · exact Or.inl rfl
  · exact Or.inr rfl

/-- What an accepted entry declares, with the group it belongs to. -/
inductive Declares (filePath : Text) (entry : Json) : Declaration → Prop
  /-- A function is read as one. -/
  | function {f : Function} (group : entryGroup entry = .function)
      (read : Function.read entry = .ok f) : Declares filePath entry (.function f)
  /-- A constant function has inputs or does not have exactly one output. -/
  | constantFunction {m : Method} (group : entryGroup entry = .constantFunction)
      (read : Method.read entry = .ok m) (several : ¬(m.inputs = [] ∧ m.outputs.length = 1)) :
      Declares filePath entry (.constantFunction m)
  /-- An accessor is read as one. -/
  | accessor {a : Accessor} (group : entryGroup entry = .accessor)
      (read : Accessor.read entry = .ok a) : Declares filePath entry (.accessor a)
  /-- An event is read as one. -/
  | event {e : Event} (group : entryGroup entry = .event)
      (read : Event.read entry = .ok e) : Declares filePath entry (.event e)
  /-- What is skipped leaves its note. -/
  | skipped (group : entryGroup entry = .skipped) :
      Declares filePath entry (.skipped (skippedNote filePath entry))

/-! ## Parameters are lists -/

private theorem mapM_read_texts_ne_ok {α : Type} {parts : List α} (h : parts ≠ [])
    (text : α → Text) (ps : List Parameter) :
    (parts.map fun part ↦ Json.str (text part)).mapM Parameter.read ≠ .ok ps := by
  obtain ⟨part, rest, rfl⟩ := List.exists_cons_of_ne_nil h
  rw [List.map_cons, List.mapM_cons]
  intro h
  cases h

/-- **Parameters are listed.** What is accepted as parameters is a list or says nothing. -/
theorem orElse_eq_items_of_readAll {raw : Json} {ps : List Parameter}
    (h : Parameter.readAll raw = .ok ps) :
    raw.orElse (.arr []) = .arr raw.items ∧ raw.items.mapM Parameter.read = .ok ps := by
  rw [Parameter.readAll] at h
  by_cases htruthy : raw.truthy = true
  · rw [Json.orElse, if_pos htruthy] at h ⊢
    cases raw with
    | arr items => exact ⟨rfl, h⟩
    | str s =>
      have hne : s.toList ≠ [] := by
        intro hnil
        rw [Json.truthy, Text.isEmpty, hnil] at htruthy
        exact absurd htruthy (by decide)
      exact absurd h (mapM_read_texts_ne_ok hne _ ps)
    | obj members =>
      have hne : members ≠ [] := by
        rintro rfl
        exact absurd htruthy (by decide)
      exact absurd h (mapM_read_texts_ne_ok hne _ ps)
    | _ => cases h
  · have hitems := Json.items_eq_nil_of_truthy_eq_false (Bool.not_eq_true _ ▸ htruthy)
    rw [Json.orElse, if_neg htruthy] at h ⊢
    rw [hitems]
    exact ⟨rfl, h⟩

theorem length_of_readAll {raw : Json} {ps : List Parameter}
    (h : Parameter.readAll raw = .ok ps) : ps.length = raw.items.length :=
  length_of_mapM (orElse_eq_items_of_readAll h).2

/-! ## Counting before reading -/

theorem classify_obj (members : List (Text × Json)) :
    classify (.obj members) = match (declaredKind (.obj members)).string? with
      | some "function" =>
        if readsOnly (.obj members) then
          (isSingleValue (.obj members)).map fun single ↦
            if single then .accessor else .constantFunction
        else .ok .function
      | some "event" => .ok .event
      | some "constructor" => .ok (.ignored "constructor")
      | some "fallback" => .ok (.ignored "fallback")
      | some "receive" => .ok (.ignored "receive")
      | _ => .ok .unsupported := by
  rfl

theorem isSingleValue_obj (members : List (Text × Json)) :
    isSingleValue (.obj members)
      = if ((Json.obj members).memberOr "inputs" .null).truthy then .ok false
        else
          (((Json.obj members).memberOr "outputs" .null).orElse (.arr [])).size.map (· == 1) := by
  rfl

theorem readAll_of_read_method {members : List (Text × Json)} {m : Method}
    (h : Method.read (.obj members) = .ok m) :
    Parameter.readAll ((Json.obj members).memberOr "inputs" .null) = .ok m.inputs ∧
      Parameter.readAll ((Json.obj members).memberOr "outputs" .null) = .ok m.outputs := by
  obtain ⟨name, -, h⟩ := bind_eq_ok_iff.mp h
  obtain ⟨rawInputs, hraw, h⟩ := bind_eq_ok_iff.mp h
  obtain rfl := Except.ok.inj hraw
  obtain ⟨inputs, hinputs, h⟩ := bind_eq_ok_iff.mp h
  obtain ⟨rawOutputs, hraw, h⟩ := bind_eq_ok_iff.mp h
  obtain rfl := Except.ok.inj hraw
  obtain ⟨outputs, houtputs, h⟩ := bind_eq_ok_iff.mp h
  obtain rfl := Except.ok.inj h
  exact ⟨hinputs, houtputs⟩

/-- An entry that is not counted to a single value, but read as a method, lists inputs or lists
another number of outputs than one. -/
theorem several_of_read_method {members : List (Text × Json)} {m : Method}
    (hsingle : isSingleValue (.obj members) = .ok false)
    (h : Method.read (.obj members) = .ok m) :
    ¬(inputCount (.obj members) = 0 ∧ outputCount (.obj members) = 1) := by
  obtain ⟨hinputs, houtputs⟩ := readAll_of_read_method h
  have hlisted := (orElse_eq_items_of_readAll hinputs).1
  rintro ⟨hnone, hone⟩
  rw [isSingleValue_obj] at hsingle
  split at hsingle
  · next htruthy =>
    -- Inputs that say something are a list, so an empty one would say nothing.
    rw [Json.orElse, if_pos htruthy, List.eq_nil_of_length_eq_zero hnone] at hlisted
    rw [hlisted] at htruthy
    exact absurd htruthy (by decide)
  · rw [(orElse_eq_items_of_readAll houtputs).1] at hsingle
    have hcount : ((outputCount (.obj members)) == 1) = false := Except.ok.inj hsingle
    rw [hone] at hcount
    exact absurd hcount (by decide)

/-- Only the first item of a list can be a parameter: the first part of a text is a text. -/
theorem eq_arr_of_first {v raw : Json} {p : Parameter} (hfirst : v.first = .ok raw)
    (hread : Parameter.read raw = .ok p) : ∃ rest, v = .arr (raw :: rest) := by
  cases v with
  | arr items =>
    cases items with
    | nil => cases hfirst
    | cons item rest =>
      obtain rfl := Except.ok.inj hfirst
      exact ⟨rest, rfl⟩
  | str s =>
    rw [Json.first] at hfirst
    split at hfirst
    · cases hfirst
    · obtain rfl := Except.ok.inj hfirst
      cases hread
  | _ => cases hfirst

/-- An entry that is counted to a single value has no inputs that say something, and its outputs
count one. -/
theorem eq_of_isSingleValue {members : List (Text × Json)}
    (h : isSingleValue (.obj members) = .ok true) :
    ((Json.obj members).memberOr "inputs" .null).truthy = false ∧
      (((Json.obj members).memberOr "outputs" .null).orElse (.arr [])).size = .ok 1 := by
  rw [isSingleValue_obj] at h
  split at h
  · exact absurd (Except.ok.inj h) Bool.false_ne_true
  · next hinputs =>
    refine ⟨Bool.not_eq_true _ ▸ hinputs, ?_⟩
    cases hsize : (((Json.obj members).memberOr "outputs" .null).orElse (.arr [])).size with
    | ok n =>
      rw [hsize] at h
      rw [eq_of_beq (Except.ok.inj h)]
    | error fault =>
      rw [hsize] at h
      cases h

/-- **Counted outputs are there.** The outputs of an entry that is counted to a single value can be
asked for, and they are what was counted. -/
theorem size_outputs_of_isSingleValue {members : List (Text × Json)}
    (h : isSingleValue (.obj members) = .ok true) :
    ∃ outputs, (Json.obj members).require "outputs" = .ok outputs ∧ outputs.size = .ok 1 := by
  have hsize := (eq_of_isSingleValue h).2
  rw [Json.memberOr] at hsize
  cases hlookup : members.lookup ("outputs" : Text) with
  | none =>
    rw [hlookup] at hsize
    exact absurd (Except.ok.inj hsize) Nat.zero_ne_one
  | some outputs =>
    rw [hlookup, Option.getD_some, Json.orElse] at hsize
    refine ⟨outputs, by rw [Json.require, hlookup], ?_⟩
    split at hsize
    · exact hsize
    · exact absurd (Except.ok.inj hsize) Nat.zero_ne_one

theorem counts_of_read_accessor {members : List (Text × Json)} {a : Accessor}
    (hsingle : isSingleValue (.obj members) = .ok true)
    (h : Accessor.read (.obj members) = .ok a) :
    inputCount (.obj members) = 0 ∧ outputCount (.obj members) = 1 := by
  obtain ⟨hinputs, hsize⟩ := eq_of_isSingleValue hsingle
  obtain ⟨name, -, h⟩ := bind_eq_ok_iff.mp h
  obtain ⟨outputs, houtputs, h⟩ := bind_eq_ok_iff.mp h
  obtain ⟨raw, hraw, h⟩ := bind_eq_ok_iff.mp h
  obtain ⟨output, houtput, -⟩ := bind_eq_ok_iff.mp h
  obtain ⟨rest, rfl⟩ := eq_arr_of_first hraw houtput
  have hmember : (Json.obj members).memberOr "outputs" .null = .arr (raw :: rest) :=
    Json.memberOr_of_require houtputs .null
  rw [hmember] at hsize
  rw [inputCount, outputCount, Json.items_eq_nil_of_truthy_eq_false hinputs, hmember]
  exact ⟨rfl, Except.ok.inj hsize⟩

/-! ## What an accepted entry declares -/

section Declaring

variable {filePath : Text} {members : List (Text × Json)} {d : Declaration}

/-- Functions are told apart by what they may do first, and only then by what they list. -/
theorem declares_of_function (hkind : (declaredKind (.obj members)).string? = some "function")
    {cls : EntryClass} (hcls : (if readsOnly (.obj members) then
        (isSingleValue (.obj members)).map fun single ↦
          if single then .accessor else .constantFunction
      else .ok .function) = .ok cls)
    (hread : Declaration.readAs filePath (.obj members) cls = .ok d) :
    Declares filePath (.obj members) d := by
  have hgroup : entryGroup (.obj members) = if !readsOnly (.obj members) then .function
      else if inputCount (.obj members) = 0 ∧ outputCount (.obj members) = 1 then .accessor
      else .constantFunction := by
    rw [entryGroup, hkind]
    rfl
  by_cases hreads : readsOnly (.obj members) = true
  · rw [if_pos hreads] at hcls
    rw [hreads, Bool.not_true, if_neg Bool.false_ne_true] at hgroup
    obtain ⟨single, hsingle, hcls⟩ := map_eq_ok_iff.mp hcls
    cases single with
    | true =>
      obtain rfl : EntryClass.accessor = cls := hcls
      obtain ⟨a, ha, rfl⟩ := map_eq_ok_iff.mp hread
      rw [if_pos (counts_of_read_accessor hsingle ha)] at hgroup
      exact .accessor hgroup ha
    | false =>
      obtain rfl : EntryClass.constantFunction = cls := hcls
      obtain ⟨m, hm, rfl⟩ := map_eq_ok_iff.mp hread
      have hseveral := several_of_read_method hsingle hm
      rw [if_neg hseveral] at hgroup
      refine .constantFunction hgroup hm ?_
      -- As many are read as are listed, so the counts of the entry are those of the method.
      obtain ⟨hinputs, houtputs⟩ := readAll_of_read_method hm
      rwa [← List.length_eq_zero_iff, length_of_readAll hinputs, length_of_readAll houtputs]
  · rw [if_neg hreads] at hcls
    rw [Bool.eq_false_iff.mpr hreads, Bool.not_false, if_pos rfl] at hgroup
    obtain rfl := Except.ok.inj hcls
    obtain ⟨f, hf, rfl⟩ := map_eq_ok_iff.mp hread
    exact .function hgroup hf

theorem declares_of_ignored {kind : String}
    (hkind : (declaredKind (.obj members)).string? = some kind)
    (hmem : kind ∈ ["constructor", "fallback", "receive"])
    (hread : Declaration.readAs filePath (.obj members) (.ignored kind) = .ok d) :
    Declares filePath (.obj members) d := by
  have hnote : skippedNote filePath (.obj members) = .ignoredEntry (.str kind) filePath := by
    have htext := Json.isText_map_ofString_iff.mpr ⟨kind, hmem, hkind⟩
    rw [Json.string?_eq_some_iff.mp hkind] at htext
    rw [skippedNote, Json.string?_eq_some_iff.mp hkind]
    exact if_pos htext
  have hgroup : entryGroup (.obj members) = .skipped := by
    rw [entryGroup, hkind]
    simp only [List.mem_cons, List.not_mem_nil, or_false] at hmem
    rcases hmem with rfl | rfl | rfl <;> rfl
  obtain rfl := Except.ok.inj hread
  rw [← hnote]
  exact .skipped hgroup

theorem declares_of_unsupported
    (hkind : ∀ kind ∈ ["function", "event", "constructor", "fallback", "receive"],
      (declaredKind (.obj members)).string? ≠ some kind)
    (hread : Declaration.readAs filePath (.obj members) .unsupported = .ok d) :
    Declares filePath (.obj members) d := by
  have htext : ¬(declaredKind (.obj members)).isText ["constructor", "fallback", "receive"] := by
    intro htext
    obtain ⟨kind, hmem, hdeclared⟩ :=
      (@Json.isText_map_ofString_iff _ ["constructor", "fallback", "receive"]).mp htext
    exact hkind kind (List.mem_cons_of_mem _ (List.mem_cons_of_mem _ hmem)) hdeclared
  have hnote : skippedNote filePath (.obj members) = .unsupportedEntry
      (declaredKind (.obj members)) ((Json.obj members).memberOr "name" (.str "")) filePath :=
    if_neg htext
  have hgroup : entryGroup (.obj members) = .skipped := by
    rw [entryGroup]
    split
    · next h => exact absurd h (hkind "function" (by simp))
    · next h => exact absurd h (hkind "event" (by simp))
    · rfl
  obtain rfl := Except.ok.inj hread
  have hskipped := @Declares.skipped filePath _ hgroup
  rw [hnote] at hskipped
  exact hskipped

/-- **One declaration for each group.** An entry that is read declares what its group says. -/
theorem declares_of_read {entry : Json} (h : Declaration.read filePath entry = .ok d) :
    Declares filePath entry d := by
  cases entry with
  | obj members =>
    obtain ⟨cls, hcls, hread⟩ := bind_eq_ok_iff.mp h
    rw [classify_obj] at hcls
    split at hcls
    · next hkind => exact declares_of_function hkind hcls hread
    · next hkind =>
      obtain rfl := Except.ok.inj hcls
      obtain ⟨e, he, rfl⟩ := map_eq_ok_iff.mp hread
      have hgroup : entryGroup (.obj members) = .event := by
        rw [entryGroup, hkind]
        rfl
      exact .event hgroup he
    · next hkind =>
      obtain rfl := Except.ok.inj hcls
      exact declares_of_ignored hkind (by decide) hread
    · next hkind =>
      obtain rfl := Except.ok.inj hcls
      exact declares_of_ignored hkind (by decide) hread
    · next hkind =>
      obtain rfl := Except.ok.inj hcls
      exact declares_of_ignored hkind (by decide) hread
    · next hfunction hevent hconstructor hfallback hreceive =>
      obtain rfl := Except.ok.inj hcls
      refine declares_of_unsupported ?_ hread
      simp only [List.forall_mem_cons]
      exact ⟨hfunction, hevent, hconstructor, hfallback, hreceive, by simp⟩
  | _ => cases h

end Declaring

end AbiTypings
