import BindingPress.Descriptor
import BindingPress.Text.Parts

/-! The full names that files declare, and how a name that is used in a file is resolved. -/

namespace BindingPress

inductive SymbolKind where
  | package | message | enum | enumValue | field | oneof | extension | service | method
deriving Repr, DecidableEq

/-- Whether a name with several parts can start with a symbol of this kind. -/
def SymbolKind.isScope : SymbolKind → Bool
  | package | message | enum | service => true
  | enumValue | field | oneof | extension | method => false

mutual

/-- A message and all messages within it, with their full names. -/
def MessageDescriptor.within (scope : String) :
    MessageDescriptor → List (String × MessageDescriptor)
  | message@⟨name, _, messages, _, _, _, _, _, _, _⟩ =>
      (qualified scope name, message) :: messagesWithin (qualified scope name) messages

def messagesWithin (scope : String) : List MessageDescriptor → List (String × MessageDescriptor)
  | [] => []
  | message :: rest => message.within scope ++ messagesWithin scope rest

end

mutual

/-- The extensions that are declared in a message, with their scopes. Those of inner messages come
before its own. -/
def MessageDescriptor.extensionsWithin (scope : String) :
    MessageDescriptor → List (String × FieldDescriptor)
  | ⟨name, _, messages, _, _, extensions, _, _, _, _⟩ =>
      messageExtensionsWithin (qualified scope name) messages ++
        extensions.map (qualified scope name, ·)

def messageExtensionsWithin (scope : String) :
    List MessageDescriptor → List (String × FieldDescriptor)
  | [] => []
  | message :: rest => message.extensionsWithin scope ++ messageExtensionsWithin scope rest

end

/-- The names of a package and of the packages around it, innermost last. -/
def packageNames (package : String) : List String :=
  let parts := Text.split '.' package.toList
  if package = "" then []
  else (List.range parts.length).map fun last =>
    String.ofList (List.intercalate ['.'] (parts.take (last + 1)))

namespace FileDescriptor

def allMessages (file : FileDescriptor) : List (String × MessageDescriptor) :=
  messagesWithin file.package file.messages

def allEnums (file : FileDescriptor) : List (String × EnumDescriptor) :=
  file.enums.map (file.package, ·) ++
    file.allMessages.flatMap fun (scope, message) => message.enums.map (scope, ·)

/-- All extensions of a file with the scopes that they are declared in. Those in messages come
first. -/
def allExtensions (file : FileDescriptor) : List (String × FieldDescriptor) :=
  messageExtensionsWithin file.package file.messages ++ file.extensions.map (file.package, ·)

def allServices (file : FileDescriptor) : List (String × ServiceDescriptor) :=
  file.services.map fun service => (qualified file.package service.name, service)

end FileDescriptor

structure DeclaredSymbol where
  name : String
  kind : SymbolKind
  file : String
deriving Repr, DecidableEq

namespace FileDescriptor

def messageSymbols (scope : String) (message : MessageDescriptor) : List (String × SymbolKind) :=
  (scope, .message) :: message.fields.map (fun field => (qualified scope field.name, .field)) ++
    message.oneofs.map fun oneof => (qualified scope oneof.name, .oneof)

/-- The values of an enum are declared beside it and not within it. -/
def enumSymbols (scope : String) (enum : EnumDescriptor) : List (String × SymbolKind) :=
  (qualified scope enum.name, .enum) ::
    enum.values.map fun value => (qualified scope value.name, .enumValue)

def serviceSymbols (scope : String) (service : ServiceDescriptor) : List (String × SymbolKind) :=
  (scope, .service) :: service.methods.map fun method => (qualified scope method.name, .method)

def declarations (file : FileDescriptor) : List DeclaredSymbol :=
  let found :=
    file.allMessages.flatMap (fun (scope, message) => messageSymbols scope message) ++
      file.allEnums.flatMap (fun (scope, enum) => enumSymbols scope enum) ++
      file.allExtensions.map (fun (scope, field) => (qualified scope field.name, .extension)) ++
      file.allServices.flatMap fun (scope, service) => serviceSymbols scope service
  found.map fun (name, kind) => { name, kind, file := file.name }

def packageSymbols (file : FileDescriptor) : List DeclaredSymbol :=
  (packageNames file.package).map fun name => { name, kind := .package, file := file.name }

end FileDescriptor

namespace FileDescriptor

/-- The dependencies that a file passes on to its own dependents, each position once. -/
def passedOn (file : FileDescriptor) : List String :=
  (file.dependencies.zipIdx.filter fun (_, position) =>
    file.publicDependencies.contains (Int.ofNat position)).map (·.1)

end FileDescriptor

/-- Adds what the file with a name passes on to the files that are already visible. A file that was
visible before also adds what it passes on itself; this is followed for as many steps. -/
def reveal (files : List FileDescriptor) : (steps : Nat) → List String → String → List String
  | 0, visible, _ => visible
  | steps + 1, visible, name =>
      match files.find? (·.name == name) with
      | none => visible
      | some file =>
          file.passedOn.foldl
            (fun visible dependency =>
              if visible.contains dependency then reveal files steps visible dependency
              else dependency :: visible)
            visible

/-- The files whose declarations a file may use. -/
def FileDescriptor.visibleFiles (file : FileDescriptor) (files : List FileDescriptor) :
    List String :=
  file.dependencies.foldl
    (fun visible dependency => reveal files files.length (dependency :: visible) dependency)
    [file.name]

structure Names where
  symbols : List DeclaredSymbol
  visible : List String

namespace Names

def find? (names : Names) (name : String) : Option DeclaredSymbol :=
  names.symbols.find? fun symbol => symbol.name == name && names.visible.contains symbol.file

/-- Whether a full name can start a longer one; for this it need not be visible. -/
def isScope (names : Names) (name : String) : Bool :=
  names.symbols.any fun symbol => symbol.name == name && symbol.kind.isScope

def fitting? (names : Names) (fits : SymbolKind → Bool) (name : String) : Option DeclaredSymbol :=
  (names.find? name).filter fun symbol => fits symbol.kind

/-- The scopes from one outwards; the outermost has no name. -/
def scopesFrom (scope : String) : List String :=
  ("" :: packageNames scope).reverse

/-- A single name is looked for from the innermost scope outwards. Of a name with several parts the
first alone decides on the scope. -/
def resolve? (names : Names) (fits : SymbolKind → Bool) (scope name : String) :
    Option DeclaredSymbol :=
  match name.toList with
  | '.' :: rest => names.fitting? fits (String.ofList rest)
  | relative =>
      if relative.contains '.' then
        let first := String.ofList (Text.beforeFirst '.' relative)
        match (scopesFrom scope).find? fun outer => names.isScope (qualified outer first) with
        | some outer => names.fitting? fits (qualified outer name)
        | none => none
      else
        (scopesFrom scope).findSome? fun outer => names.fitting? fits (qualified outer name)

end Names
end BindingPress
