import BindingPress.Descriptor.Decode
import BindingPress.Pool.Default
import BindingPress.Pool.Given
import BindingPress.Pool.Rules

/-! Making pools: every name in the files is resolved and every rule kept. -/

namespace BindingPress

namespace Pool

def hasSoundDefault (pool : Pool) (field : PoolField) : Bool :=
  field.descriptor.defaultValue.all fun text =>
    match field.type with
    | .scalar type => DefaultValue.isScalar type text.toList
    | .enum name => (pool.enum? name).any fun enum => enum.values.any (·.name == text)
    | .message _ | .group _ => false

def hasSoundNumber (pool : Pool) (extended : PoolField) : Bool :=
  (pool.message? extended.owner).any fun message => message.admits extended.descriptor

def hasReadableOptions (pool : Pool) : Bool :=
  pool.files.all fun file => file.optionSites.all fun site => (pool.interpret? site).isSome

def isSound (pool : Pool) : Bool :=
  (pool.files.all fun file => file.hasResolvedMethods (pool.namesFor file)) &&
    pool.fields.all pool.hasSoundDefault &&
    (pool.extensions.all fun (_, field) =>
      pool.hasSoundDefault field && pool.hasSoundNumber field) &&
    pool.hasReadableOptions

/-- Makes a pool of files; fails when one of them breaks a rule. -/
def ofFiles? (files : List FileDescriptor) : Option Pool :=
  if areSound files then (resolve? files).filter isSound else none

def decode? (bytes : Bytes) : Option Pool := do
  let files ← FileSet.descriptors? bytes
  ofFiles? files

end Pool
end BindingPress
