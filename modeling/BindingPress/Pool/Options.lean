import BindingPress.Model.Basic
import BindingPress.Pool.Build

/-! The custom options of methods and fields, looked up in a pool. -/

namespace BindingPress

namespace Pool

/-- Names are looked up without a leading dot. -/
def withoutDot (name : String) : String :=
  match name.toList with
  | '.' :: rest => String.ofList rest
  | _ => name

def methodSite? (pool : Pool) (service name : String) : Option OptionSite :=
  pool.files.findSome? fun file => do
    let found ← file.allServices.lookup (withoutDot service)
    let method ← found.methods.find? (·.name == name)
    return {
      file := file.name
      scope := qualified (withoutDot service) name
      kind := .methodOptions
      options := method.options }

def fieldSite? (pool : Pool) (message name : String) : Option OptionSite := do
  let found ← pool.messages.lookup (withoutDot message)
  let field ← found.descriptor.fields.find? (·.name == name)
  return {
    file := found.file
    scope := qualified (withoutDot message) name
    kind := .fieldOptions
    options := field.options }

/-- What an option is set to. The option has the number of the extension with a given full name. -/
def option? (pool : Pool) (site : OptionSite) (name : String) : Option FieldValue := do
  let extended ← pool.extensions.lookup name
  let describing := pool.describing site.kind
  let field ← describing.field? site.kind.optionsName extended.number
  let fields ← pool.interpret? site
  (fields.get? field.number).filter (describing.counts field)

def enumOption? (pool : Pool) (site : OptionSite) (name : String) : Option Int :=
  match pool.option? site name with
  | some (.choice number) => some number
  | _ => none

def boolOption? (pool : Pool) (site : OptionSite) (name : String) : Option Bool :=
  match pool.option? site name with
  | some (.flag value) => some value
  | _ => none

def textOption? (pool : Pool) (site : OptionSite) (name : String) :
    Option String :=
  match pool.option? site name with
  | some (.text value) => some value
  | _ => none

def doubleOption? (pool : Pool) (site : OptionSite) (name : String) :
    Option Binary64 :=
  match pool.option? site name with
  | some (.double value) => some value
  | _ => none

/-- The custom options of a method; a missing or unknown kind of call stands for both kinds. -/
def methodOptions (pool : Pool) (site : OptionSite) : MethodOptions where
  asyncType :=
    ((pool.enumOption? site "mavsdk.options.async_type").bind
      AsyncType.ofNumber?).getD .both
  isFinite := (pool.boolOption? site "mavsdk.options.is_finite").getD false

def fieldOptions (pool : Pool) (site : OptionSite) : FieldOptions where
  defaultValue := pool.textOption? site "mavsdk.options.default_value"
  epsilon := pool.doubleOption? site "mavsdk.options.epsilon"

end Pool

namespace OptionLookup

/-- Declarations that a pool does not have are without custom options. -/
def ofPool (pool : Pool) : OptionLookup where
  method service name :=
    match pool.methodSite? service name with
    | some site => pool.methodOptions site
    | none => {}
  field message name :=
    match pool.fieldSite? message name with
    | some site => pool.fieldOptions site
    | none => {}

/-- Where no pool can be made there are no custom options. -/
def ofRawFiles (files : List Bytes) : OptionLookup :=
  match Pool.decode? (FileSet.encode ⟨files⟩) with
  | some pool => ofPool pool
  | none => {}

def ofRequest (bytes : Bytes) : OptionLookup :=
  match Request.rawFiles? bytes with
  | some files => ofRawFiles files
  | none => {}

end OptionLookup
end BindingPress
