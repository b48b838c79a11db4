import BindingPress.Model.Basic
import BindingPress.Template.Value

/-! The model as templates see it. -/

namespace BindingPress

open Naming (Identifier)
open Template (Value)

def Naming.Identifier.view (name : Identifier) : Value :=
  .ofMembers [
    ("raw", .text name.raw),
    ("upper_camel_case", .text name.upperCamel),
    ("lower_camel_case", .text name.lowerCamel),
    ("lower_snake_case", .text name.lowerSnake),
    ("upper_snake_case", .text name.upperSnake)]

def EnumValue.view (value : EnumValue) : Value :=
  .ofMembers [
    ("name", value.name.view),
    ("description", .text value.description),
    ("number", .int value.number)]

def Enum.view (enum : Enum) : Value :=
  .ofMembers [
    ("name", enum.name.view),
    ("description", .text enum.description),
    ("parent", .ofOption Identifier.view enum.parent),
    ("values", .list (enum.values.map EnumValue.view))]

def TypeInfo.view (info : TypeInfo) : Value :=
  .ofMembers [
    ("name", .text info.name),
    ("inner_name", .text info.innerName),
    ("accessor", .text info.accessor),
    ("is_primitive", .bool info.isPrimitive),
    ("is_enum", .bool info.isEnum),
    ("is_repeated", .bool info.isRepeated),
    ("is_result", .bool info.isResult)]

def Field.view (field : Field) : Value :=
  .ofMembers [
    ("name", field.name.view),
    ("type_info", field.typeInfo.view),
    ("description", .text field.description),
    ("default_value", .ofOption .text field.defaultValue),
    ("epsilon", .ofOption .ofBinary64 field.epsilon)]

def Struct.view (struct : Struct) : Value :=
  .ofMembers [
    ("name", struct.name.view),
    ("description", .text struct.description),
    ("role", .text struct.role.title),
    ("fields", .list (struct.fields.map Field.view)),
    ("nested_enums", .list (struct.nestedEnums.map Enum.view)),
    ("has_result", .bool struct.hasResult)]

def MethodOptions.view (options : MethodOptions) : Value :=
  .ofMembers [
    ("async_type", .text options.asyncType.title),
    ("is_finite", .bool options.isFinite)]

structure MethodView where
  name : Identifier
  description : String
  shape : Shape
  target : Target
  kind : MethodKind
  options : MethodOptions
  hasResult : Bool
  request : Struct
  response : Struct
  returnField : Option Field
deriving Repr, DecidableEq

/-- What a template is rendered with. Requests and responses show up in their methods only. -/
structure RenderContext where
  package : Identifier
  pluginName : Identifier
  classDescription : String
  enums : List Enum
  structs : List Struct
  methods : List MethodView
  hasResult : Bool
  isServer : Bool
deriving Repr, DecidableEq

namespace FileModel

def methodView (model : FileModel)
    (method : Method model.requests.length model.responses.length) : MethodView where
  name := method.name
  description := method.description
  shape := method.shape
  target := method.target
  kind := method.kind
  options := method.options
  hasResult := method.hasResult
  request := model.requestOf method
  response := model.responseOf method
  returnField := (model.responseOf method).returnField?

def renderContext (model : FileModel) : RenderContext where
  package := model.package
  pluginName := model.pluginName
  classDescription := model.classDescription
  enums := model.enums
  structs := model.structs
  methods := model.methods.map model.methodView
  hasResult := model.hasResult
  isServer := model.isServer

end FileModel

def MethodView.view (method : MethodView) : Value :=
  .ofMembers [
    ("name", method.name.view),
    ("description", .text method.description),
    ("shape", .text method.shape.title),
    ("target", .text method.target.title),
    ("kind", .text method.kind.title),
    ("options", method.options.view),
    ("has_result", .bool method.hasResult),
    ("request", method.request.view),
    ("response", method.response.view),
    ("return_field", .ofOption Field.view method.returnField)]

def RenderContext.view (context : RenderContext) : Value :=
  .ofMembers [
    ("package", context.package.view),
    ("plugin_name", context.pluginName.view),
    ("class_description", .text context.classDescription),
    ("enums", .list (context.enums.map Enum.view)),
    ("structs", .list (context.structs.map Struct.view)),
    ("methods", .list (context.methods.map MethodView.view)),
    ("has_result", .bool context.hasResult),
    ("is_server", .bool context.isServer)]

end BindingPress
