import BindingPress.Descriptor.Schema
import BindingPress.Pool.Symbol

/-! Pools: files that belong together, with the types of all their fields. -/

namespace BindingPress

inductive ResolvedType where
  | scalar (type : FieldType)
  | enum (name : String)
  | message (name : String)
  /-- A message that is encoded between two marks. -/
  | group (name : String)
deriving Repr, DecidableEq

def ResolvedType.isMessage : ResolvedType → Bool
  | message _ | group _ => true
  | scalar _ | enum _ => false

structure PoolField where
  descriptor : FieldDescriptor
  owner : String
  type : ResolvedType
  isExtension : Bool := false
  /-- Whether a value is told apart from none when it is the usual one. -/
  hasPresence : Bool := true
deriving Repr, DecidableEq

def PoolField.number (field : PoolField) : Nat :=
  field.descriptor.number.toNat

structure PoolMessage where
  file : String
  descriptor : MessageDescriptor
deriving Repr

structure Pool where
  files : List FileDescriptor := []
  symbols : List DeclaredSymbol := []
  messages : List (String × PoolMessage) := []
  enums : List (String × EnumDescriptor) := []
  fields : List PoolField := []
  extensions : List (String × PoolField) := []
deriving Repr

namespace FieldDescriptor

/-- An unknown type stands for the first one. -/
def declaredType (field : FieldDescriptor) : FieldType :=
  field.fieldType?.getD .double

/-- The type of a field. What its type name refers to counts more than the type that it declares; an
empty type name is none. -/
def resolvedType? (field : FieldDescriptor) (names : Names) (scope : String) :
    Option ResolvedType :=
  let isType (kind : SymbolKind) := kind == .message || kind == .enum
  match field.typeName.filter (· != "") with
  | some name => do
      let symbol ← names.resolve? isType scope name
      return if symbol.kind == .enum then .enum symbol.name
      else if field.declaredType == .group then .group symbol.name
      else .message symbol.name
  | none =>
      match field.declaredType with
      | .message | .enum | .group => none
      | type => some (.scalar type)

end FieldDescriptor

namespace Pool

/-- The files with what they declare; the types of fields are not resolved yet. -/
def ofDeclarations (files : List FileDescriptor) : Pool where
  files
  symbols :=
    files.flatMap FileDescriptor.packageSymbols ++ files.flatMap FileDescriptor.declarations
  messages := files.flatMap fun file =>
    file.allMessages.map fun (name, descriptor) => (name, { file := file.name, descriptor })
  enums := files.flatMap fun file =>
    file.allEnums.map fun (scope, enum) => (qualified scope enum.name, enum)

def namesFor (pool : Pool) (file : FileDescriptor) : Names :=
  { symbols := pool.symbols, visible := file.visibleFiles pool.files }

def message? (pool : Pool) (name : String) : Option MessageDescriptor :=
  (pool.messages.lookup name).map (·.descriptor)

def enum? (pool : Pool) (name : String) : Option EnumDescriptor :=
  pool.enums.lookup name

def ownField? (pool : Pool) (owner : String) (number : Nat) : Option PoolField :=
  pool.fields.find? fun field => field.owner == owner && field.descriptor.number == number

/-- The field of a message that has a number; its own fields come before extensions, of which the
first with the number counts. -/
def field? (pool : Pool) (owner : String) (number : Nat) : Option PoolField :=
  (pool.ownField? owner number).orElse fun _ =>
    (pool.extensions.map (·.2)).find? fun field =>
      field.owner == owner && field.descriptor.number == number

end Pool

namespace Pool

def isMap (pool : Pool) (field : PoolField) : Bool :=
  field.descriptor.isRepeated &&
    match field.type with
    | .message name | .group name => (pool.message? name).any (·.isMapEntry)
    | .scalar _ | .enum _ => false

/-- The numbers of the other fields in the oneof of a field. Extensions are in none. -/
def rivals (pool : Pool) (field : PoolField) : List Nat :=
  if field.isExtension || field.descriptor.oneofIndex.isNone then []
  else
    let isRival (other : PoolField) :=
      other.owner == field.owner && other.number != field.number &&
        other.descriptor.oneofIndex == field.descriptor.oneofIndex
    (pool.fields.filter isRival).map (·.number)

end Pool
end BindingPress
