import BindingPress.Doc
import BindingPress.Model.Resolution
import BindingPress.Settings

/-! The binding model of a file, assembled from its descriptor. Every list of the model follows the
order of declaration. -/

namespace BindingPress

open Naming (Identifier)

/-- Applies a function that can fail to each element and its position, counted from `start`, and
stops at the first failure. -/
def tryMapFrom (f : Nat → α → Except ε β) : Nat → List α → Except ε (List β)
  | _, [] => .ok []
  | start, element :: rest => do
      let first ← f start element
      let others ← tryMapFrom f (start + 1) rest
      return first :: others

def tryMapIndexed (f : Nat → α → Except ε β) (elements : List α) : Except ε (List β) :=
  tryMapFrom f 0 elements

structure Presentation where
  package : String
  pluginName : String
deriving Repr, DecidableEq

/-- What the parts of one file's model are assembled with. -/
structure Assembly where
  /-- The package of the file itself, under which its declarations are known. -/
  package : String
  settings : Settings
  docs : DocIndex
  options : OptionLookup
  target : Target

namespace Assembly

def ofFile (file : FileDescriptor) (presentation : Presentation) (settings : Settings)
    (options : OptionLookup) : Assembly where
  package := file.package
  settings
  docs := DocIndex.ofLocations file.locations
  options
  target := Target.ofPluginName presentation.pluginName

def identifier (assembly : Assembly) (raw : String) : Identifier :=
  Identifier.parse raw assembly.settings.initialisms

def enum (assembly : Assembly) (parent : Option Identifier) (declaration : Declaration)
    (value : Nat → Declaration) (descriptor : EnumDescriptor) : Enum where
  name := assembly.identifier descriptor.name
  description := assembly.docs.get declaration
  parent
  values := descriptor.values.mapIdx fun k entry =>
    { name := assembly.identifier entry.name
      description := assembly.docs.get (value k)
      number := entry.number }

def enums (assembly : Assembly) (descriptors : List EnumDescriptor) : List Enum :=
  descriptors.mapIdx fun i descriptor =>
    assembly.enum none (.enum i) (.enumValue i) descriptor

def field (assembly : Assembly) (message : Nat) (scope : String) (index : Nat)
    (descriptor : FieldDescriptor) : Except Error Field := do
  let typeInfo ← assembly.settings.conversions.resolve descriptor
  let options := assembly.options.field scope descriptor.name
  return {
    name := assembly.identifier descriptor.name
    typeInfo
    description := assembly.docs.get (.field message index)
    defaultValue := options.defaultValue
    epsilon := options.epsilon }

def struct (assembly : Assembly) (index : Nat) (descriptor : MessageDescriptor) :
    Except Error Struct := do
  let name := assembly.identifier descriptor.name
  let scope := qualified assembly.package descriptor.name
  let fields ← tryMapIndexed (assembly.field index scope) descriptor.fields
  return {
    name
    description := assembly.docs.get (.message index)
    role := Role.ofName descriptor.name
    fields
    nestedEnums := descriptor.enums.mapIdx fun j nested =>
      assembly.enum (some name) (.nestedEnum index j) (.nestedEnumValue index j) nested
    hasResult := fields.any (·.typeInfo.isResult) }

/-- The first of the candidates that is declared under the last part of a type's name. -/
def payload (candidates : List Struct) (payload : Payload) (method type : String) :
    Except Error (Fin candidates.length) :=
  match candidates.findFinIdx? fun struct => struct.name.raw == shortName type with
  | some position => .ok position
  | none => .error (.payloadMissing payload method type)

def methodKind (shape : Shape) (response : Struct) : MethodKind :=
  if shape.isServerStreaming then .stream
  else if response.returnField?.isSome then .request
  else .call

def method (assembly : Assembly) (requests responses : List Struct) (service : Nat)
    (scope : String) (index : Nat) (descriptor : MethodDescriptor) :
    Except Error (Method requests.length responses.length) := do
  let request ← payload requests .request descriptor.name descriptor.inputType
  let response ← payload responses .response descriptor.name descriptor.outputType
  let shape := Shape.ofFlags descriptor.clientStreaming descriptor.serverStreaming
  return {
    name := assembly.identifier descriptor.name
    description := assembly.docs.get (.method service index)
    shape
    target := assembly.target
    kind := methodKind shape (responses.get response)
    options := assembly.options.method scope descriptor.name
    hasResult := (responses.get response).hasResult
    request
    response }

def serviceMethods (assembly : Assembly) (requests responses : List Struct) (index : Nat)
    (descriptor : ServiceDescriptor) :
    Except Error (List (Method requests.length responses.length)) :=
  let scope := qualified assembly.package descriptor.name
  tryMapIndexed (assembly.method requests responses index scope) descriptor.methods

end Assembly

namespace FileModel

/-- Builds the model of a file. Fields are resolved before methods, so that an unresolvable field is
reported first. -/
def build (file : FileDescriptor) (presentation : Presentation) (settings : Settings)
    (options : OptionLookup) : Except Error FileModel := do
  let assembly := Assembly.ofFile file presentation settings options
  let all ← tryMapIndexed assembly.struct file.messages
  let requests := all.filter (·.role == .request)
  let responses := all.filter (·.role == .response)
  let methods ← tryMapIndexed (assembly.serviceMethods requests responses) file.services
  return {
    package := assembly.identifier presentation.package
    pluginName := assembly.identifier presentation.pluginName
    classDescription := assembly.docs.get (.service 0)
    enums := assembly.enums file.enums
    structs := all.filter (·.role == .plain)
    requests
    responses
    methods := methods.flatten
    hasResult := all.any (·.hasResult)
    isServer := assembly.target.isServer }

end FileModel
end BindingPress
