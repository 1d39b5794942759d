import AbiTypings.Json.Access

/-!
# Faults a run over a directory contains

Reading a document goes through many small steps, and each of them has faults of its own. Instead of
listing them, every step gets one statement of the form `Yields P step`: it gives a value with the
property `P`, or it fails in a way that a run over a directory reports and survives. The two halves
belong together, because what a step gives decides which faults the next one can have.

## Classes of faults

`Fault.isContained` is the test a run makes. `Fault.kind` sorts faults into classes without looking
at that test, and `Fault.kind_of_isContained` relates the two: what is contained is a refused
content, a missing member, a value of the wrong kind or a value without members, and never a missing
item.
-/

namespace AbiTypings

/-! ## Classes -/

/-- The classes of faults. -/
inductive FaultClass where
  /-- A value of the right kind whose content is refused. -/
  | value
  /-- A member is missing. -/
  | key
  /-- A value is of the wrong kind. -/
  | type
  /-- Members were asked of something that has none. -/
  | attribute
  /-- An item is missing. -/
  | index
  /-- The file system refuses an operation. -/
  | system
  /-- An operation is not offered. -/
  | unavailable
deriving DecidableEq, Repr

def ShapeFault.kind : ShapeFault → FaultClass
  | noMembers _ => .attribute
  | missingMember _ => .key
  | noFirstMember => .key
  | emptySequence => .index
  | emptyText => .index
  | noParts _ => .type
  | nameInSequence => .type
  | nameInText => .type
  | notWalkable _ => .type
  | noLength _ => .type

def PatternFault.kind : PatternFault → FaultClass
  | absolute => .unavailable
  | noComponents => .index
  | onlyDirectory => .attribute
  | missing => .value
  | empty => .value
  | partialRecursion => .value

def Fault.kind : Fault → FaultClass
  | shape fault => fault.kind
  | pattern fault => fault.kind
  | file _ _ => .system
  | unrecognizedType _ => .type
  | ungroupable _ => .type
  | unordered _ _ => .type
  | noOutputDirectory => .type
  | noComponents _ => .attribute
  | json _ => .value
  | encoding _ => .value
  | lone _ => .value
  | noDescription => .value
  | notEntry _ => .value
  | notParameter _ => .value
  | unknownType _ => .value
  | numeral _ => .value
  | noClassName _ => .value
  | nulInPath => .value

/-- The classes a run over a directory contains. -/
def FaultClass.contained : List FaultClass := [.value, .key, .type, .attribute]

theorem Fault.kind_of_isContained {fault : Fault} (h : fault.isContained = true) :
    fault.kind ∈ FaultClass.contained := by
  cases fault with
  | shape fault =>
    cases fault with
    | emptySequence => exact absurd h Bool.false_ne_true
    | emptyText => exact absurd h Bool.false_ne_true
    | _ => simp [Fault.kind, ShapeFault.kind, FaultClass.contained]
  | file fault path => exact absurd h Bool.false_ne_true
  | pattern fault => exact absurd h Bool.false_ne_true
  | noOutputDirectory => exact absurd h Bool.false_ne_true
  | _ => simp [Fault.kind, FaultClass.contained]

/-! ## Steps -/

variable {α β : Type} {P : α → Prop} {Q : β → Prop}

/-- A step gives a value with a property, or its fault is contained. -/
def Yields (P : α → Prop) : Except Fault α → Prop
  | .ok a => P a
  | .error fault => fault.isContained = true

theorem Yields.of_ok {result : Except Fault α} (h : Yields P result) {a : α}
    (ha : result = .ok a) : P a := by
  subst ha
  exact h

theorem Yields.of_error {result : Except Fault α} (h : Yields P result) {fault : Fault}
    (hfault : result = .error fault) : fault.isContained = true := by
  subst hfault
  exact h

theorem Yields.and_eq {step : Except Fault α} (h : Yields P step) :
    Yields (fun a ↦ step = .ok a ∧ P a) step := by
  cases step with
  | ok a => exact ⟨rfl, h⟩
  | error fault => exact h

theorem Yields.bind {step : Except Fault α} {next : α → Except Fault β} (h : Yields P step)
    (hnext : ∀ a, P a → Yields Q (next a)) : Yields Q (step >>= next) := by
  cases step with
  | ok a => exact hnext a h
  | error fault => exact h

theorem Yields.map {step : Except Fault α} {f : α → β} (h : Yields P step)
    (hf : ∀ a, P a → Q (f a)) : Yields Q (step.map f) := by
  cases step with
  | ok a => exact hf a h
  | error fault => exact h

theorem Yields.mono {P' : α → Prop} {step : Except Fault α} (h : Yields P step)
    (himp : ∀ a, P a → P' a) : Yields P' step := by
  cases step with
  | ok a => exact himp a h
  | error fault => exact h

theorem yields_mapM {step : α → Except Fault β} {items : List α}
    (h : ∀ item ∈ items, Yields Q (step item)) :
    Yields (fun results ↦ ∀ result ∈ results, Q result) (items.mapM step) := by
  induction items with
  | nil => exact fun result hresult ↦ absurd hresult List.not_mem_nil
  | cons item rest ih =>
    rw [List.mapM_cons]
    refine (h item List.mem_cons_self).bind fun result hresult ↦ ?_
    have hrest := ih fun other hother ↦ h other (List.mem_cons_of_mem item hother)
    refine hrest.bind fun results hresults ↦ ?_
    exact List.forall_mem_cons.mpr ⟨hresult, hresults⟩

/-! ## Picking values apart -/

namespace Json

/-- Nothing is known of the value, but a fault would be contained. -/
theorem yields_get (v : Json) (key : Text) : Yields (fun _ ↦ True) (v.get key) := by
  cases v with
  | obj members => trivial
  | _ => rfl

theorem yields_require (v : Json) (key : Text) : Yields (fun _ ↦ True) (v.require key) := by
  cases v with
  | obj members =>
    rw [require]
    split
    · trivial
    · rfl
  | _ => rfl

theorem yields_elements (v : Json) : Yields (fun _ ↦ True) v.elements := by
  cases v with
  | arr items => trivial
  | obj members => trivial
  | str s => trivial
  | _ => rfl

theorem yields_size (v : Json) : Yields (fun _ ↦ True) v.size := by
  cases v with
  | arr items => trivial
  | obj members => trivial
  | str s => trivial
  | _ => rfl

/-- A value of length one has a first part, unless its parts have names. This is where a missing
item would arise, and the length rules it out. -/
theorem yields_first {v : Json} (h : v.size = .ok 1) : Yields (fun _ ↦ True) v.first := by
  cases v with
  | arr items =>
    match items, h with
    | [], h => exact absurd (Except.ok.inj h) Nat.zero_ne_one
    | _ :: _, _ => trivial
  | str s =>
    obtain ⟨c, hc⟩ := List.length_eq_one_iff.mp (Except.ok.inj h)
    rw [first, hc]
    trivial
  | _ => rfl

end Json

end AbiTypings
