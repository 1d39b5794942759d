import AbiTypings.Json.Text

/-!
# EVM types

The types of parameters as trees. Arrays and tuples hold their parts; the components of a tuple are
named, and a name is kept as the value it was read as.

Trees also come from outside, and then hold nodes that are no type of the machine: the bare root of
the type family, a named variation of another type, or a plain value where a type should stand. The
three have no rendering, and they stay in the tree so that the offending node can be shown.
-/

namespace AbiTypings

/-- The type of a parameter. -/
inductive EvmType where
  /-- A signed integer. -/
  | int (bits : Int)
  /-- An unsigned integer. -/
  | uint (bits : Int)
  /-- An account address. -/
  | address
  /-- No value at all. -/
  | void
  /-- A string of bytes, of fixed size if one is given. -/
  | bytes (size : Option Int)
  /-- A truth value. -/
  | bool
  /-- A text. -/
  | string
  /-- A sequence of items, of fixed size if one is given. -/
  | array (item : EvmType) (size : Option Int)
  /-- A sequence of named components. -/
  | tuple (components : List (Json × EvmType))
  /-- The root of the type family, which is no type itself. -/
  | bare
  /-- A variation of a type under a name of its own. -/
  | variation (name : String) (base : EvmType)
  /-- A plain value in the place of a type. -/
  | value (v : Json)

namespace EvmType

/-! ## Descriptions

A node is described by the name of its kind and its fields. -/

def kindName : EvmType → String
  | int _ => "IntegerType"
  | uint _ => "UnsignedIntegerType"
  | address => "AddressType"
  | void => "VoidType"
  | bytes _ => "BytesType"
  | bool => "BooleanType"
  | string => "StringType"
  | array _ _ => "ArrayType"
  | tuple _ => "TupleType"
  | bare => "EvmType"
  | variation name _ => name
  | value v => v.kind

def sizeText : Option Int → String
  | some n => toString n
  | none => "None"

/-- A sequence in round brackets; a single element is followed by a comma. -/
def sequenceText : List Text → Text
  | [x] => "(" ++ x ++ ",)"
  | xs => "(" ++ Text.intercalate ", " xs ++ ")"

/-- The description of a node with the given description of its fields. -/
def frame (t : EvmType) (fields : Text) : Text :=
  match t with
  | value v => v.quoted
  | t => t.kindName ++ "(" ++ fields ++ ")"

mutual

/-- The description of the fields of a node. -/
def describeFields : EvmType → Text
  | int bits => "bits=" ++ toString bits
  | uint bits => "bits=" ++ toString bits
  | bytes size => "size=" ++ sizeText size
  | array item size =>
    "item_type=" ++ item.frame (describeFields item) ++ ", size=" ++ sizeText size
  | tuple components => "components=" ++ sequenceText (describeComponents components)
  | variation _ base => describeFields base
  | _ => ""

def describeComponents : List (Json × EvmType) → List Text
  | [] => []
  | (name, t) :: rest =>
    ("TupleComponent(name=" ++ name.quoted ++ ", type=" ++ t.frame (describeFields t) ++ ")") ::
      describeComponents rest

end

/-- The description of a node. -/
def describe (t : EvmType) : Text := t.frame t.describeFields

/-! ## Sameness -/

mutual

/-- Whether two trees have the same kinds of nodes with the same fields. Two variations are never
the same: each is a kind of its own. -/
def same : EvmType → EvmType → Bool
  | int b, int b' => b == b'
  | uint b, uint b' => b == b'
  | address, address => true
  | void, void => true
  | bytes s, bytes s' => s == s'
  | bool, bool => true
  | string, string => true
  | array t s, array t' s' => same t t' && s == s'
  | tuple cs, tuple cs' => sameComponents cs cs'
  | bare, bare => true
  | value v, value v' => v.same v'
  | _, _ => false

def sameComponents : List (Json × EvmType) → List (Json × EvmType) → Bool
  | [], [] => true
  | (n, t) :: cs, (n', t') :: cs' => n.same n' && same t t' && sameComponents cs cs'
  | _, _ => false

end

end EvmType

end AbiTypings
