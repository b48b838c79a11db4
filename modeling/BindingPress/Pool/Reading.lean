import BindingPress.Pool.FieldValue
import BindingPress.Wire.Message

/-! Reading messages that a pool describes. -/

namespace BindingPress

/-- A field that is not known is passed over, unless its groups nest too deep. -/
def skipUnknown? (depth : Nat) (key : Wire.Key) (bytes : Bytes) : Option Bytes := do
  let (content, rest) ← Wire.contentOrGroup? key bytes
  if content.levels ≤ depth then some rest else none

/-- In the entries of maps every field takes one level. -/
def skipInMap? (depth : Nat) (key : Wire.Key) (bytes : Bytes) : Option Bytes := do
  let (content, rest) ← Wire.contentOrGroup? key bytes
  if content.height ≤ depth then some rest else none

def ResolvedType.single? (type : ResolvedType) (form : Wire.Form) (bytes : Bytes) :
    Option (FieldValue × Bytes) := do
  let (content, rest) ← Wire.content? form bytes
  let value ← type.value? content
  return (value, rest)

/-- Reads up to `steps` values of a type that are packed together. -/
def ResolvedType.unpackWithin (type : ResolvedType) :
    (steps : Nat) → Bytes → Option (List FieldValue)
  | _, [] => some []
  | 0, _ :: _ => none
  | steps + 1, bytes => do
      let (value, rest) ← type.single? type.form bytes
      let others ← type.unpackWithin steps rest
      return value :: others

/-- Reads the fields of a message of a given name into those that it has, at a depth, to the end of
the bytes or of the group with a number. -/
abbrev FieldsReader :=
  (depth : Nat) → (owner : String) → (group : Option Nat) → MessageFields → Bytes →
    Option (MessageFields × Bytes)

/-- Reads the entries of maps, at a depth, with a key and a value field, to the end of the bytes. -/
abbrev EntryReader :=
  (depth : Nat) → (key value : PoolField) → FieldValue × FieldValue → Bytes →
    Option (FieldValue × FieldValue)

def readSingle (fields : FieldsReader) (depth : Nat) (field : PoolField) (form : Wire.Form)
    (value : FieldValue) (bytes : Bytes) : Option (FieldValue × Bytes) :=
  match field.type, form, depth with
  | .message name, .chunk, depth + 1 => do
      let (chunk, rest) ← Wire.sized? bytes
      let (inner, _) ← fields depth name none value.fields chunk
      return (.message inner, rest)
  | .group name, .opening, depth + 1 => do
      let (inner, rest) ← fields depth name (some field.number) value.fields bytes
      return (.message inner, rest)
  | type, form, _ => type.single? form bytes

namespace Pool

def entryFields? (pool : Pool) (field : PoolField) : Option (PoolField × PoolField) :=
  match field.type with
  | .message name | .group name => do
      let key ← pool.ownField? name 1
      let value ← pool.ownField? name 2
      return (key, value)
  | .scalar _ | .enum _ => none

/-- Reads a value of a field into the one that it has. What is given for a map is read as an entry
of it, whatever its form. -/
def readValue (pool : Pool) (fields : FieldsReader) (entry : EntryReader) (depth : Nat)
    (field : PoolField) (form : Wire.Form) (value : FieldValue) (bytes : Bytes) :
    Option (FieldValue × Bytes) :=
  if pool.isMap field then do
    let (key, content) ← pool.entryFields? field
    guard key.type.isKey
    let (chunk, rest) ← Wire.sized? bytes
    let pair ← entry depth key content (pool.usualSingle key, pool.usualValue content) chunk
    return (value.insert pair, rest)
  else if field.descriptor.isRepeated then
    if form = .chunk && field.type.isPackable then do
      let (chunk, rest) ← Wire.sized? bytes
      let values ← field.type.unpackWithin chunk.length chunk
      return (values.foldl FieldValue.push value, rest)
    else do
      let (single, rest) ← readSingle fields depth field form (pool.usualSingle field) bytes
      return (value.push single, rest)
  else readSingle fields depth field form value bytes

def readField (pool : Pool) (below : FieldsReader) (entry : EntryReader) (depth : Nat)
    (owner : String) (key : Wire.Key) (fields : MessageFields) (bytes : Bytes) :
    Option (MessageFields × Bytes) :=
  match pool.field? owner key.number with
  | some field => do
      let (value, rest) ←
        pool.readValue below entry depth field key.form (pool.current fields field) bytes
      return (pool.set fields field value, rest)
  | none => (skipUnknown? depth key bytes).map (fields, ·)

mutual

/-- Reads fields, with up to `steps` of them within and after each other. -/
def readFields (pool : Pool) : (steps : Nat) → FieldsReader
  | 0, _, _, _, _, _ => none
  | _ + 1, _, _, none, fields, [] => some (fields, [])
  | steps + 1, depth, owner, group, fields, bytes => do
      let (key, rest) ← Wire.key? bytes
      if key.form = .closing && group.isSome then
        if group = some key.number then some (fields, rest) else none
      else
        let (fields, rest) ←
          pool.readField (pool.readFields steps) (pool.readEntry steps) depth owner key fields rest
        pool.readFields steps depth owner group fields rest

def readEntry (pool : Pool) : (steps : Nat) → EntryReader
  | _, _, _, _, entry, [] => some entry
  | 0, _, _, _, _, _ :: _ => none
  | steps + 1, depth, keyField, valueField, entry, bytes => do
      let (key, rest) ← Wire.key? bytes
      let (entry, rest) ←
        if key.number = 1 then
          (keyField.type.single? key.form rest).map fun (value, rest) => ((value, entry.2), rest)
        else if key.number = 2 then
          (pool.readValue (pool.readFields steps) (pool.readEntry steps) depth valueField key.form
            entry.2 rest).map fun (value, rest) => ((entry.1, value), rest)
        else (skipInMap? depth key rest).map (entry, ·)
      pool.readEntry steps depth keyField valueField entry rest

end

def readMessage? (pool : Pool) (name : String) (bytes : Bytes) : Option MessageFields :=
  (pool.readFields (bytes.length + 1) Wire.depthLimit name none [] bytes).map (·.1)

def readOptions? (pool : Pool) (kind : DescriptorKind) (options : Bytes) : Option MessageFields :=
  (pool.describing kind).readMessage? kind.optionsName options

end Pool
end BindingPress
