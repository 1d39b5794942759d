import AbiTypings.EvmType.Basic
import AbiTypings.Json.Reader
import AbiTypings.Text.Utf8

/-!
# Faults

Everything that can go wrong, as one type of causes, and the text of each. Most faults lie in the
document at hand; a run over a directory reports those and goes on with the next document. The
others stop it: see `Fault.isContained`.
-/

namespace AbiTypings

/-- Why a value cannot be used in the way a document's grammar asks for. -/
inductive ShapeFault where
  /-- Members were looked up in a value of this kind, which is no object. -/
  | noMembers (kind : String)
  /-- An object lacks the member under this key. -/
  | missingMember (key : Text)
  /-- A value of this kind has no parts that could be picked. -/
  | noParts (kind : String)
  /-- A member of a sequence was asked for by name. -/
  | nameInSequence
  /-- A member of a text was asked for by name. -/
  | nameInText
  /-- A value of this kind cannot be walked through. -/
  | notWalkable (kind : String)
  /-- A value of this kind has no length. -/
  | noLength (kind : String)
  /-- A sequence has no first item. -/
  | emptySequence
  /-- A text has no first character. -/
  | emptyText
  /-- The first item was asked of an object, whose members have names. -/
  | noFirstMember
deriving DecidableEq, Repr

def ShapeFault.message : ShapeFault → Text
  | noMembers kind => "'" ++ kind ++ "' object has no attribute 'get'"
  | missingMember key => Text.quote key
  | noParts kind => "'" ++ kind ++ "' object is not subscriptable"
  | nameInSequence => "list indices must be integers or slices, not str"
  | nameInText => "string indices must be integers, not 'str'"
  | notWalkable kind => "'" ++ kind ++ "' object is not iterable"
  | noLength kind => "object of type '" ++ kind ++ "' has no len()"
  | emptySequence => "list index out of range"
  | emptyText => "string index out of range"
  | noFirstMember => "0"

/-- Why the file system refuses an operation. -/
inductive FileFault where
  /-- A place on the way, or the end of it, does not exist. -/
  | notFound
  /-- The place is taken. -/
  | alreadyExists
  /-- A place on the way is not a directory. -/
  | notDirectory
  /-- The place is a directory. -/
  | isDirectory
  /-- A name on the way is too long. -/
  | nameTooLong
deriving DecidableEq, Repr

def FileFault.code : FileFault → Nat
  | notFound => 2
  | alreadyExists => 17
  | notDirectory => 20
  | isDirectory => 21
  | nameTooLong => 36

def FileFault.words : FileFault → String
  | notFound => "No such file or directory"
  | alreadyExists => "File exists"
  | notDirectory => "Not a directory"
  | isDirectory => "Is a directory"
  | nameTooLong => "File name too long"

/-- Why a search pattern is refused. -/
inductive PatternFault where
  /-- There is no pattern. -/
  | missing
  /-- The pattern is empty. -/
  | empty
  /-- The pattern starts at the root. -/
  | absolute
  /-- A double star stands beside other characters of a component. -/
  | partialRecursion
  /-- The pattern has no component. -/
  | noComponents
  /-- The pattern asks for nothing but a directory. -/
  | onlyDirectory
deriving DecidableEq, Repr

def PatternFault.message : PatternFault → String
  | missing => "Unacceptable pattern: []"
  | empty => "Unacceptable pattern: ''"
  | absolute => "Non-relative patterns are unsupported"
  | partialRecursion => "Invalid pattern: '**' can only be an entire path component"
  | noComponents => "tuple index out of range"
  | onlyDirectory => "'_TerminatingSelector' object has no attribute 'select_from'"

def Text.NumeralFault.message : Text.NumeralFault → Text
  | .tooLong digits =>
    "Exceeds the limit (" ++ toString Text.digitLimit ++
      " digits) for integer string conversion: value has " ++ toString digits ++
      " digits; use sys.set_int_max_str_digits() to increase the limit"
  | .malformed text =>
    "invalid literal for int() with base 10: " ++ ⟨(Text.quoteChars text).take 200⟩

def Json.ReadFault.message : Json.ReadFault → Text
  | .malformed complaint line column offset =>
    complaint.message ++ ": line " ++ toString line ++ " column " ++ toString column ++
      " (char " ++ toString offset ++ ")"
  | .numeral fault => fault.message

/-- Everything that can go wrong. -/
inductive Fault where
  /-- A document is not JSON. -/
  | json (fault : Json.ReadFault)
  /-- The bytes of a document are no text. -/
  | encoding (fault : Text.DecodeFault)
  /-- A text holds halves that have no bytes. -/
  | lone (fault : Text.EncodeFault)
  /-- A document holds no interface description. -/
  | noDescription
  /-- An entry of a description is not an object. -/
  | notEntry (v : Json)
  /-- A parameter is not an object. -/
  | notParameter (v : Json)
  /-- A value is not of the shape asked for. -/
  | shape (fault : ShapeFault)
  /-- A text is no type signature; the part that could not be read is shown. -/
  | unknownType (text : Text)
  /-- A width or size cannot be read. -/
  | numeral (fault : Text.NumeralFault)
  /-- A node of a type tree has no rendering. -/
  | unrecognizedType (node : EvmType)
  /-- Components were asked of a node of this kind, which is no tuple. -/
  | noComponents (kind : String)
  /-- No class name can be derived from a name. -/
  | noClassName (raw : String)
  /-- Diagnostics cannot be grouped by a value of this kind. -/
  | ungroupable (kind : String)
  /-- Values of these two kinds have no order. -/
  | unordered (left right : String)
  /-- The file system refuses an operation on this path. -/
  | file (fault : FileFault) (path : String)
  /-- A path holds the character zero, which no file system takes. -/
  | nulInPath
  /-- A search pattern is refused. -/
  | pattern (fault : PatternFault)
  /-- There is no directory to write typings to. -/
  | noOutputDirectory

namespace Fault

def message : Fault → Text
  | json fault => fault.message
  | encoding fault => fault.message
  | lone fault => fault.message
  | noDescription => "Not a valid ABI: expected a list or an object with an \"abi\" list"
  | notEntry v => "Not a valid ABI entry: " ++ v.quoted
  | notParameter v => "Not a valid ABI parameter: " ++ v.quoted
  | shape fault => fault.message
  | unknownType text => "Unknown type: " ++ text
  | numeral fault => fault.message
  | unrecognizedType node => "Unrecognized type " ++ node.describe
  | noComponents kind => "'" ++ kind ++ "' object has no attribute 'components'"
  | noClassName raw => "Cannot derive a contract name from \"" ++ raw ++ "\""
  | ungroupable kind => "unhashable type: '" ++ kind ++ "'"
  | unordered left right =>
    "'<' not supported between instances of '" ++ left ++ "' and '" ++ right ++ "'"
  | file fault path =>
    "[Errno " ++ toString fault.code ++ "] " ++ fault.words ++ ": " ++ Text.quote path
  | nulInPath => "embedded null byte"
  | pattern fault => fault.message
  | noOutputDirectory => "expected str, bytes or os.PathLike object, not list"

/-- Whether a fault lies in the document at hand, so that a run over a directory reports it and goes
on. What the file system or the search refuses, and a first item that is missing, stop the run. -/
def isContained : Fault → Bool
  | shape .emptySequence => false
  | shape .emptyText => false
  | file _ _ => false
  | pattern _ => false
  | noOutputDirectory => false
  | _ => true

end Fault

end AbiTypings
