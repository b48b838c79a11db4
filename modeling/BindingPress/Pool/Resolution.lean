import BindingPress.Pool.Basic

/-! Resolving the types of fields and extensions. A declaration is itself the innermost scope of the
names that it uses. -/

namespace BindingPress

namespace FileDescriptor

/-- The methods of a file take and give messages that it can refer to. -/
def hasResolvedMethods (file : FileDescriptor) (names : Names) : Bool :=
  file.allServices.all fun (owner, service) =>
    service.methods.all fun method =>
      let scope := qualified owner method.name
      (names.resolve? (· == .message) scope method.inputType).isSome &&
        (names.resolve? (· == .message) scope method.outputType).isSome

def poolFields? (file : FileDescriptor) (names : Names) : Option (List PoolField) :=
  let ofMessage : String × MessageDescriptor → Option (List PoolField) := fun (owner, message) =>
    message.fields.mapM fun descriptor =>
      (descriptor.resolvedType? names (qualified owner descriptor.name)).map fun type =>
        { descriptor, owner, type
          hasPresence := !descriptor.isRepeated &&
            (!file.isProto3 || descriptor.isOptional || descriptor.oneofIndex.isSome ||
              type.isMessage) }
  (file.allMessages.mapM ofMessage).map List.flatten

def poolExtensions? (file : FileDescriptor) (names : Names) :
    Option (List (String × PoolField)) :=
  file.allExtensions.mapM fun (outer, descriptor) => do
    let scope := qualified outer descriptor.name
    let extended ← names.resolve? (· == .message) scope (descriptor.extendee.getD "")
    let type ← descriptor.resolvedType? names scope
    return (scope, { descriptor, owner := extended.name, type
                     isExtension := true, hasPresence := !descriptor.isRepeated })

end FileDescriptor

namespace Pool

def resolve? (files : List FileDescriptor) : Option Pool := do
  let pool := ofDeclarations files
  let fields ← files.mapM fun file => file.poolFields? (pool.namesFor file)
  let extensions ← files.mapM fun file => file.poolExtensions? (pool.namesFor file)
  return { pool with fields := fields.flatten, extensions := extensions.flatten }

end Pool
end BindingPress
