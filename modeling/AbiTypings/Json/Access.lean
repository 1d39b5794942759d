import AbiTypings.Fault

/-!
# Picking values apart

Entries of a description are read without a schema: each step asks a value for a part, and a value
of the wrong kind answers with a fault that tells the kind. Objects are walked through by their
keys and texts by their characters, so a text or an object in the place of a sequence is only
noticed when its parts are used.
-/

namespace AbiTypings.Json

/-- The member of an object under a key, if there is one. -/
def member? (v : Json) (key : Text) : Except Fault (Option Json) :=
  match v with
  | obj members => .ok (members.lookup key)
  | v => .error (.shape (.noMembers v.kind))

/-- The member of an object under a key, null if there is none. -/
def get (v : Json) (key : Text) : Except Fault Json :=
  match v with
  | obj members => .ok ((members.lookup key).getD null)
  | v => .error (.shape (.noMembers v.kind))

/-- The member of an object under a key that must be there. -/
def require (v : Json) (key : Text) : Except Fault Json :=
  match v with
  | obj members =>
    match members.lookup key with
    | some w => .ok w
    | none => .error (.shape (.missingMember key))
  | arr _ => .error (.shape .nameInSequence)
  | str _ => .error (.shape .nameInText)
  | v => .error (.shape (.noParts v.kind))

/-- The parts of a value in order: items, keys or characters. -/
def elements : Json → Except Fault (List Json)
  | arr items => .ok items
  | obj members => .ok (members.map fun m ↦ str m.1)
  | str s => .ok (s.toList.map fun c ↦ str (Text.singleton c))
  | v => .error (.shape (.notWalkable v.kind))

/-- The number of parts of a value. -/
def size : Json → Except Fault Nat
  | arr items => .ok items.length
  | obj members => .ok members.length
  | str s => .ok s.length
  | v => .error (.shape (.noLength v.kind))

/-- The first part of a sequence or a text. -/
def first : Json → Except Fault Json
  | arr [] => .error (.shape .emptySequence)
  | arr (v :: _) => .ok v
  | str s =>
    match s.toList with
    | [] => .error (.shape .emptyText)
    | c :: _ => .ok (str (Text.singleton c))
  | obj _ => .error (.shape .noFirstMember)
  | v => .error (.shape (.noParts v.kind))

end AbiTypings.Json
