import BindingPress.Descriptor.GivenOption
import BindingPress.Pool.Reading

/-! Options that are given by name: what the name refers to, and the value that is set. -/

namespace BindingPress

structure OptionSite where
  file : String
  /-- The scope in which names of extensions are looked for. -/
  scope : String
  kind : DescriptorKind
  options : Bytes
deriving Repr, DecidableEq

namespace FileDescriptor

def optionSites (file : FileDescriptor) : List OptionSite :=
  let ofFields (scope : String) (fields : List FieldDescriptor) : List OptionSite :=
    fields.map fun field => ⟨file.name, qualified scope field.name, .fieldOptions, field.options⟩
  let ofMessage (scope : String) (message : MessageDescriptor) : List OptionSite :=
    ⟨file.name, scope, .messageOptions, message.options⟩ :: ofFields scope message.fields ++
      message.oneofs.map (fun oneof =>
        ⟨file.name, qualified scope oneof.name, .oneofOptions, oneof.options⟩) ++
      message.extensionRanges.map fun range =>
        ⟨file.name, scope, .extensionRangeOptions, range.options⟩
  let ofEnum (scope : String) (enum : EnumDescriptor) : List OptionSite :=
    ⟨file.name, qualified scope enum.name, .enumOptions, enum.options⟩ ::
      enum.values.map fun value =>
        ⟨file.name, qualified scope value.name, .enumValueOptions, value.options⟩
  let ofService (scope : String) (service : ServiceDescriptor) : List OptionSite :=
    ⟨file.name, scope, .serviceOptions, service.options⟩ ::
      service.methods.map fun method =>
        ⟨file.name, qualified scope method.name, .methodOptions, method.options⟩
  ⟨file.name, file.package, .fileOptions, file.options⟩ ::
    file.allMessages.flatMap (fun (scope, message) => ofMessage scope message) ++
    file.allEnums.flatMap (fun (scope, enum) => ofEnum scope enum) ++
    file.allExtensions.flatMap (fun (scope, field) => ofFields scope [field]) ++
    file.allServices.flatMap fun (scope, service) => ofService scope service

end FileDescriptor

def FieldType.range? : FieldType → Option (Int × Int)
  | .int32 | .sint32 | .sfixed32 => some (-2147483648, 2147483647)
  | .int64 | .sint64 | .sfixed64 => some (-9223372036854775808, 9223372036854775807)
  | .uint32 | .fixed32 => some (0, 4294967295)
  | .uint64 | .fixed64 => some (0, 18446744073709551615)
  | _ => none

namespace Pool

/-- The value of a type that an option is given. The text of a message is not looked into. -/
def givenValue? (pool : Pool) (given : GivenOption) : ResolvedType → Option FieldValue
  | .message _ | .group _ => given.aggregate.map fun _ => .message []
  | .enum name => do
      let enum ← pool.enum? name
      let chosen ← given.identifier
      let value ← enum.values.find? (·.name == chosen)
      return .choice value.number
  | .scalar .double => given.float?.map .double
  | .scalar .float => given.float?.map fun value => .float (.ofBinary64 value)
  | .scalar .bool => given.bool?.map .flag
  | .scalar .string => (given.text.bind Bytes.text?).map .text
  | .scalar .bytes => given.text.map .blob
  | .scalar type => do
      let (least, greatest) ← type.range?
      let value ← given.int?
      guard (least ≤ value ∧ value ≤ greatest)
      return .integer value

def givenField? (pool : Pool) (names : Names) (scope owner : String) (part : GivenPart) :
    Option PoolField :=
  if part.isExtension then do
    let symbol ← names.resolve? (· == .extension) scope part.name
    (pool.extensions.lookup symbol.name).filter (·.owner == owner)
  else pool.fields.find? fun field => field.owner == owner && field.descriptor.name == part.name

/-- Gives a field a value. What is not repeated is set once. An entry of a map has the usual key and
value. -/
def give? (pool : Pool) (fields : MessageFields) (field : PoolField) (value : FieldValue) :
    Option MessageFields :=
  let current := pool.current fields field
  if pool.isMap field then do
    let (key, content) ← pool.entryFields? field
    guard key.type.isKey
    return pool.set fields field (current.insert (pool.usualSingle key, pool.usualValue content))
  else if field.descriptor.isRepeated then some (pool.set fields field (current.push value))
  else if pool.isSet fields field then none
  else some (pool.set fields field value)

/-- Sets an option of a message. All parts of its name but the last refer to messages. -/
def setGiven? (pool : Pool) (names : Names) (scope : String) (given : GivenOption) :
    (owner : String) → List GivenPart → MessageFields → Option MessageFields
  | _, [], fields => some fields
  | owner, part :: rest, fields => do
      let field ← pool.givenField? names scope owner part
      if rest.isEmpty then
        let value ← pool.givenValue? given field.type
        pool.give? fields field value
      else
        match field.type with
        | .message inner | .group inner =>
            guard (!field.descriptor.isRepeated)
            let below ←
              pool.setGiven? names scope given inner rest (pool.current fields field).fields
            return pool.set fields field (.message below)
        | .scalar _ | .enum _ => none

def setAllGiven? (pool : Pool) (site : OptionSite) (given : List GivenOption)
    (fields : MessageFields) : Option MessageFields := do
  let file ← pool.files.find? (·.name == site.file)
  let names := pool.namesFor file
  given.foldlM
    (fun fields given =>
      (pool.describing site.kind).setGiven? names site.scope given site.kind.optionsName given.parts
        fields)
    fields

/-- Empties a field that a message has of its own; an extension of that number keeps its value. -/
def clearOwn (pool : Pool) (owner : String) (number : Nat) (fields : MessageFields) :
    MessageFields :=
  if (pool.ownField? owner number).isSome then fields.erase number else fields

/-- The options of a declaration, with those set that are given by name. The place that these were
given in is left empty. -/
def interpret? (pool : Pool) (site : OptionSite) : Option MessageFields := do
  let fields ← pool.readOptions? site.kind site.options
  match GivenOption.ofOptions site.kind site.options with
  | [] => return fields
  | given =>
      let fields ← pool.setAllGiven? site given fields
      return (pool.describing site.kind).clearOwn site.kind.optionsName DescriptorKind.givenPlace
        fields

end Pool
end BindingPress
