import BindingPress.Bytes

/-! Descriptions of interface files, as a compiler front end hands them over: what is declared, in
the order of declaration, with comments and encoded options attached. -/

namespace BindingPress

inductive FieldType where
  | double | float | int64 | uint64 | int32 | fixed64 | fixed32 | bool | string | group | message
  | bytes | uint32 | enum | sfixed32 | sfixed64 | sint32 | sint64
deriving Repr, DecidableEq

namespace FieldType

def ofNumber? : Int → Option FieldType
  | 1 => some double
  | 2 => some float
  | 3 => some int64
  | 4 => some uint64
  | 5 => some int32
  | 6 => some fixed64
  | 7 => some fixed32
  | 8 => some bool
  | 9 => some string
  | 10 => some group
  | 11 => some message
  | 12 => some bytes
  | 13 => some uint32
  | 14 => some enum
  | 15 => some sfixed32
  | 16 => some sfixed64
  | 17 => some sint32
  | 18 => some sint64
  | _ => none

/-- The name under which conversions are found. -/
def key : FieldType → String
  | double => "TYPE_DOUBLE"
  | float => "TYPE_FLOAT"
  | int64 => "TYPE_INT64"
  | uint64 => "TYPE_UINT64"
  | int32 => "TYPE_INT32"
  | fixed64 => "TYPE_FIXED64"
  | fixed32 => "TYPE_FIXED32"
  | bool => "TYPE_BOOL"
  | string => "TYPE_STRING"
  | group => "TYPE_GROUP"
  | message => "TYPE_MESSAGE"
  | bytes => "TYPE_BYTES"
  | uint32 => "TYPE_UINT32"
  | enum => "TYPE_ENUM"
  | sfixed32 => "TYPE_SFIXED32"
  | sfixed64 => "TYPE_SFIXED64"
  | sint32 => "TYPE_SINT32"
  | sint64 => "TYPE_SINT64"

end FieldType

structure EnumValueDescriptor where
  name : String := ""
  /-- The number that is given, if any. -/
  given : Option Int := none
  options : Bytes := []
deriving Repr, DecidableEq

/-- A value without a number counts as zero. -/
def EnumValueDescriptor.number (value : EnumValueDescriptor) : Int :=
  value.given.getD 0

/-- A field of a message, or an extension of one. Type and label are numbers that need not name a
known type or label. -/
structure FieldDescriptor where
  name : String := ""
  extendee : Option String := none
  number : Int := 0
  label : Option Int := none
  type : Option Int := none
  typeName : Option String := none
  defaultValue : Option String := none
  oneofIndex : Option Int := none
  jsonName : Option String := none
  /-- Whether a field without a value is told apart from one that has the usual value. -/
  isOptional : Bool := false
  options : Bytes := []
deriving Repr, DecidableEq

namespace FieldDescriptor

def fieldType? (field : FieldDescriptor) : Option FieldType :=
  field.type.bind FieldType.ofNumber?

def repeatedLabel : Int := 3

def isRepeated (field : FieldDescriptor) : Bool :=
  field.label == some repeatedLabel

end FieldDescriptor

/-- The numbers from `first` up to and without `limit`. -/
structure NumberRange where
  first : Int := 0
  limit : Int := 0
  options : Bytes := []
deriving Repr, DecidableEq

def NumberRange.contains (range : NumberRange) (number : Int) : Bool :=
  range.first ≤ number && number < range.limit

structure EnumDescriptor where
  name : String := ""
  values : List EnumValueDescriptor := []
  reservedRanges : List NumberRange := []
  allowAlias : Bool := false
  options : Bytes := []
deriving Repr, DecidableEq

structure OneofDescriptor where
  name : String := ""
  options : Bytes := []
deriving Repr, DecidableEq

structure MessageDescriptor where
  name : String := ""
  fields : List FieldDescriptor := []
  messages : List MessageDescriptor := []
  enums : List EnumDescriptor := []
  extensionRanges : List NumberRange := []
  extensions : List FieldDescriptor := []
  oneofs : List OneofDescriptor := []
  reservedRanges : List NumberRange := []
  isMapEntry : Bool := false
  options : Bytes := []
deriving Repr, Inhabited

structure MethodDescriptor where
  name : String := ""
  inputType : String := ""
  outputType : String := ""
  clientStreaming : Bool := false
  serverStreaming : Bool := false
  options : Bytes := []
deriving Repr, DecidableEq

structure ServiceDescriptor where
  name : String := ""
  methods : List MethodDescriptor := []
  options : Bytes := []
deriving Repr, DecidableEq

/-- The comments at one place of the source file. -/
structure Location where
  path : List Int := []
  leading : Option String := none
  trailing : Option String := none
  /-- Comments that stand before the declaration but apart from it. -/
  detached : List String := []
deriving Repr, DecidableEq

inductive SchemaVersion where
  | proto2
  | proto3
  | unknown (name : String)
deriving Repr, DecidableEq

namespace SchemaVersion

def ofName : String → SchemaVersion
  | "proto2" => proto2
  | "proto3" => proto3
  | name => unknown name

def isKnown : SchemaVersion → Bool
  | unknown _ => false
  | _ => true

end SchemaVersion

structure FileDescriptor where
  name : String := ""
  package : String := ""
  dependencies : List String := []
  /-- Positions of the dependencies that this file passes on to its own dependents. -/
  publicDependencies : List Int := []
  /-- Positions of the dependencies that this file could do without. -/
  weakDependencies : List Int := []
  messages : List MessageDescriptor := []
  enums : List EnumDescriptor := []
  services : List ServiceDescriptor := []
  extensions : List FieldDescriptor := []
  javaPackage : String := ""
  locations : List Location := []
  version : SchemaVersion := .proto2
  options : Bytes := []
deriving Repr

def FileDescriptor.isProto3 (file : FileDescriptor) : Bool :=
  file.version == .proto3

/-- The name of a declaration within a scope; the outermost scope has no name. -/
def qualified (scope name : String) : String :=
  if scope = "" then name else scope ++ "." ++ name

end BindingPress
