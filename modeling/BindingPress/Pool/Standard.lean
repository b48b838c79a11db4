import BindingPress.Descriptor.Kind
import BindingPress.Descriptor.Standard
import BindingPress.Pool.Resolution

/-! Where options are described: in the pool that they are used in, or else in the standard
description. -/

namespace BindingPress.Pool

def standard : Pool :=
  (resolve? [StandardOptions.file]).getD {}

/-- The pool that describes options of a kind. -/
def describing (pool : Pool) (kind : DescriptorKind) : Pool :=
  if (pool.message? kind.optionsName).isSome then pool else standard

end BindingPress.Pool
