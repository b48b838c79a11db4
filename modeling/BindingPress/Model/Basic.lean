import BindingPress.Decimal.Binary64
import BindingPress.Naming.Identifier
import BindingPress.Text.Parts

/-! The binding model of one interface file: enumerations, structures and methods with names,
types, documentation and options resolved. -/

namespace BindingPress

open Naming (Identifier)

structure EnumValue where
  name : Identifier
  description : String
  number : Int
deriving Repr, DecidableEq

structure Enum where
  name : Identifier
  description : String
  parent : Option Identifier
  values : List EnumValue
deriving Repr, DecidableEq

/-- A field's type in the target language. -/
structure TypeInfo where
  name : String
  innerName : String
  accessor : String
  isPrimitive : Bool
  isEnum : Bool
  isRepeated : Bool
  /-- Whether the field carries the outcome of a call. -/
  isResult : Bool
deriving Repr, DecidableEq

structure Field where
  name : Identifier
  typeInfo : TypeInfo
  description : String
  defaultValue : Option String
  epsilon : Option Binary64
deriving Repr, DecidableEq

/-- What a message is for, told by the end of its name. -/
inductive Role where
  | plain
  | request
  | response
deriving Repr, DecidableEq

namespace Role

def ofName (name : String) : Role :=
  if Text.endsWith "Request".toList name.toList then request
  else if Text.endsWith "Response".toList name.toList then response
  else plain

def title : Role → String
  | plain => "plain"
  | request => "request"
  | response => "response"

end Role

structure Struct where
  name : Identifier
  description : String
  role : Role
  fields : List Field
  nestedEnums : List Enum
  hasResult : Bool
deriving Repr, DecidableEq

/-- The first field that carries a value and not the outcome of a call. -/
def Struct.returnField? (struct : Struct) : Option Field :=
  struct.fields.find? fun field => !field.typeInfo.isResult

/-- Which sides of a call send a stream. -/
inductive Shape where
  | unary
  | clientStreaming
  | serverStreaming
  | bidirectional
deriving Repr, DecidableEq

namespace Shape

def ofFlags : (client server : Bool) → Shape
  | false, false => unary
  | true, false => clientStreaming
  | false, true => serverStreaming
  | true, true => bidirectional

def isClientStreaming : Shape → Bool
  | clientStreaming | bidirectional => true
  | _ => false

def isServerStreaming : Shape → Bool
  | serverStreaming | bidirectional => true
  | _ => false

def title : Shape → String
  | unary => "unary"
  | clientStreaming => "client_streaming"
  | serverStreaming => "server_streaming"
  | bidirectional => "bidirectional"

end Shape

/-- Which side of a call a binding is for. -/
inductive Target where
  | client
  | server
deriving Repr, DecidableEq

namespace Target

def ofPluginName (name : String) : Target :=
  if Text.endsWith "server".toList (Text.lower name.toList) then server else client

def isServer : Target → Bool
  | server => true
  | client => false

def title : Target → String
  | client => "client"
  | server => "server"

end Target

/-- How a method is used: for its effect, for its answer, or for the answers that keep coming. -/
inductive MethodKind where
  | call
  | request
  | stream
deriving Repr, DecidableEq

def MethodKind.title : MethodKind → String
  | call => "call"
  | request => "request"
  | stream => "stream"

inductive AsyncType where
  | async
  | sync
  | both
deriving Repr, DecidableEq

namespace AsyncType

def ofNumber? : Int → Option AsyncType
  | 0 => some async
  | 1 => some sync
  | 2 => some both
  | _ => none

def title : AsyncType → String
  | async => "async"
  | sync => "sync"
  | both => "both"

end AsyncType

structure MethodOptions where
  asyncType : AsyncType := .both
  isFinite : Bool := false
deriving Repr, DecidableEq

structure FieldOptions where
  defaultValue : Option String := none
  epsilon : Option Binary64 := none
deriving Repr, DecidableEq

/-- Where the custom options of declarations are found: by the full name of the service or message,
then by the name of the method or field. -/
structure OptionLookup where
  method : String → String → MethodOptions := fun _ _ => {}
  field : String → String → FieldOptions := fun _ _ => {}

/-- A method of a file with the given numbers of request and response messages. -/
structure Method (requests responses : Nat) where
  name : Identifier
  description : String
  shape : Shape
  target : Target
  kind : MethodKind
  options : MethodOptions
  hasResult : Bool
  request : Fin requests
  response : Fin responses
deriving Repr, DecidableEq

structure FileModel where
  package : Identifier
  pluginName : Identifier
  classDescription : String
  enums : List Enum
  structs : List Struct
  requests : List Struct
  responses : List Struct
  methods : List (Method requests.length responses.length)
  hasResult : Bool
  isServer : Bool
deriving Repr

namespace FileModel

def requestOf (model : FileModel) (method : Method model.requests.length model.responses.length) :
    Struct :=
  model.requests.get method.request

def responseOf (model : FileModel) (method : Method model.requests.length model.responses.length) :
    Struct :=
  model.responses.get method.response

end FileModel
end BindingPress
