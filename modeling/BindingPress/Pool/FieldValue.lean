import BindingPress.Pool.Default
import BindingPress.Pool.Standard
import BindingPress.Wire.Record

/-! The values of the fields of messages that a pool describes, and which of them count as set. -/

namespace BindingPress

inductive FieldValue where
  | integer (value : Int)
  | flag (value : Bool)
  | double (value : Binary64)
  | float (value : Binary32)
  | choice (number : Int)
  | text (value : String)
  | blob (value : Bytes)
  | message (fields : List (Nat × FieldValue))
  /-- The values of a repeated field, newest first. -/
  | list (values : List FieldValue)
  /-- The entries of a map, newest first. -/
  | map (entries : List (FieldValue × FieldValue))
deriving Repr

/-- The fields that a message has, each once, with their numbers. -/
abbrev MessageFields := List (Nat × FieldValue)

namespace MessageFields

def get? (fields : MessageFields) (number : Nat) : Option FieldValue :=
  fields.lookup number

def erase (fields : MessageFields) (number : Nat) : MessageFields :=
  fields.filter (·.1 != number)

def put (fields : MessageFields) (number : Nat) (value : FieldValue) : MessageFields :=
  (number, value) :: fields.erase number

end MessageFields

namespace FieldValue

/-- Equality of values that are not composed, by number where they are numbers. -/
def agrees : FieldValue → FieldValue → Bool
  | integer x, integer y => x == y
  | flag x, flag y => x == y
  | double x, double y => x.same y
  | float x, float y => x.same y
  | choice x, choice y => x == y
  | text x, text y => x == y
  | blob x, blob y => x == y
  | list [], list [] => true
  | map [], map [] => true
  | _, _ => false

def fields : FieldValue → MessageFields
  | message fields => fields
  | _ => []

def push : FieldValue → FieldValue → FieldValue
  | list values, value => list (value :: values)
  | _, value => list [value]

def insert : FieldValue → FieldValue × FieldValue → FieldValue
  | map entries, entry => map (entry :: entries)
  | _, entry => map [entry]

end FieldValue

/-- The whole number that an encoded number of a type stands for. -/
def FieldType.integer? (type : FieldType) (value : Nat) : Option Int :=
  let signed (size : Nat) := Int.bmod value size
  let folded (value : Nat) : Int := if value % 2 = 0 then value / 2 else -(value / 2 + 1 : Nat)
  match type with
  | .int32 | .sfixed32 => some (signed 4294967296)
  | .int64 | .sfixed64 => some (signed 18446744073709551616)
  | .uint32 | .fixed32 => some (value % 4294967296 : Nat)
  | .uint64 | .fixed64 => some value
  | .sint32 => some (folded (value % 4294967296))
  | .sint64 => some (folded value)
  | _ => none

namespace FieldType

def form : FieldType → Wire.Form
  | .double | .fixed64 | .sfixed64 => .fixed64
  | .float | .fixed32 | .sfixed32 => .fixed32
  | .string | .bytes => .chunk
  | _ => .varint

def integerValue? (type : FieldType) (value : Nat) : Option FieldValue :=
  (type.integer? value).map .integer

def value? (type : FieldType) (content : Wire.Content) : Option FieldValue :=
  match type, content with
  | .double, .fixed64 bits => some (.double ⟨UInt64.ofNat bits⟩)
  | .float, .fixed32 bits => some (.float ⟨UInt32.ofNat bits⟩)
  | .bool, .varint value => some (.flag (value != 0))
  | .string, .chunk value => value.text?.map .text
  | .bytes, .chunk value => some (.blob value)
  | type, .varint value => if type.form = .varint then type.integerValue? value else none
  | type, .fixed32 value => if type.form = .fixed32 then type.integerValue? value else none
  | type, .fixed64 value => if type.form = .fixed64 then type.integerValue? value else none
  | _, _ => none

/-- The value of a scalar type that a text gives, or the plainest one. -/
def usualValue (type : FieldType) (text : Option String) : FieldValue :=
  let zero := DefaultValue.Numeral.decimal false 0 1 0
  let numeral := (text.bind fun text => DefaultValue.numeral? text.toList).getD zero
  match type with
  | .bool => .flag (text == some "true")
  | .string => .text (text.getD "")
  | .bytes => .blob ((text.bind fun text => DefaultValue.bytes? text.toList).getD [])
  | .double => .double numeral.toBinary64
  | .float => .float numeral.toBinary32
  | type => .integer ((text.bind fun text => DefaultValue.integer? type text.toList).getD 0)

end FieldType

/-- The number of the value with the given name, or else of the first value. -/
def EnumDescriptor.usualNumber (enum : EnumDescriptor) (name : Option String) : Int :=
  match name with
  | some name => ((enum.values.find? (·.name == name)).map (·.number)).getD 0
  | none => (enum.values.head?.map (·.number)).getD 0

namespace ResolvedType

def form : ResolvedType → Wire.Form
  | .scalar type => type.form
  | .enum _ => .varint
  | .message _ => .chunk
  | .group _ => .opening

/-- The value that a content stands for, where it is not a message. -/
def value? (type : ResolvedType) (content : Wire.Content) : Option FieldValue :=
  match type, content with
  | .scalar type, content => type.value? content
  | .enum _, .varint value => some (.choice (Int.bmod value 4294967296))
  | _, _ => none

/-- Whether several values of a type can be packed into one record. -/
def isPackable : ResolvedType → Bool
  | .scalar .string | .scalar .bytes | .message _ | .group _ => false
  | .scalar _ | .enum _ => true

/-- Whether values of a type can be the keys of a map. -/
def isKey : ResolvedType → Bool
  | .scalar .double | .scalar .float | .scalar .bytes => false
  | .scalar _ => true
  | .enum _ | .message _ | .group _ => false

end ResolvedType

namespace Pool

/-- The value of a field, taken as a single one, when it is not set. -/
def usualSingle (pool : Pool) (field : PoolField) : FieldValue :=
  match field.type with
  | .scalar type => type.usualValue field.descriptor.defaultValue
  | .enum name =>
      .choice (((pool.enum? name).map (·.usualNumber field.descriptor.defaultValue)).getD 0)
  | .message _ | .group _ => .message []

def usualValue (pool : Pool) (field : PoolField) : FieldValue :=
  if pool.isMap field then .map []
  else if field.descriptor.isRepeated then .list []
  else pool.usualSingle field

/-- Whether a value of a field counts as set. -/
def counts (pool : Pool) (field : PoolField) (value : FieldValue) : Bool :=
  field.hasPresence || !(pool.usualValue field).agrees value

def isSet (pool : Pool) (fields : MessageFields) (field : PoolField) : Bool :=
  (fields.get? field.number).any (pool.counts field)

/-- Makes room for a field: only one field of a oneof can be set. -/
def claim (pool : Pool) (fields : MessageFields) (field : PoolField) : MessageFields :=
  (pool.rivals field).foldl MessageFields.erase fields

def set (pool : Pool) (fields : MessageFields) (field : PoolField) (value : FieldValue) :
    MessageFields :=
  (pool.claim fields field).put field.number value

def current (pool : Pool) (fields : MessageFields) (field : PoolField) : FieldValue :=
  (fields.get? field.number).getD (pool.usualValue field)

end Pool
end BindingPress
