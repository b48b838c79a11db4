import BindingPress.Conversion
import BindingPress.Descriptor
import BindingPress.Error
import BindingPress.Model.Basic

/-! The target type of a field, by the conversion table. -/

namespace BindingPress

def shortName (name : String) : String :=
  String.ofList (Text.afterLast '.' name.toList)

structure ElementType where
  name : String
  accessor : String
deriving Repr, DecidableEq

namespace ConversionTable

/-- A type declared elsewhere keeps its name unless the table has a pattern for its kind. -/
def declaredType (table : ConversionTable) (type : FieldType) (referenced field : String) :
    ElementType :=
  match table.get? type.key with
  | some conversion => ⟨conversion.typeFor referenced, conversion.accessorFor field⟩
  | none => ⟨referenced, field⟩

/-- A built-in type is what the table says, word for word. -/
def scalarType (table : ConversionTable) (type : FieldType) (field : String) :
    Except Error ElementType :=
  match table.get? type.key with
  | some conversion => .ok ⟨conversion.typePattern, conversion.accessorFor field⟩
  | none => .error (.conversionMissing type.key field)

def elementType (table : ConversionTable) (type : FieldType) (field : FieldDescriptor) :
    Except Error ElementType :=
  match type with
  | .message | .enum =>
      .ok (table.declaredType type (shortName (field.typeName.getD "")) field.name)
  | .group => .error (.groupUnsupported field.name)
  | _ => table.scalarType type field.name

/-- Whether a field refers to a message that carries the outcome of a call. -/
def isResultReference (type : FieldType) (field : FieldDescriptor) : Bool :=
  type = .message && Text.endsWith "Result".toList (shortName (field.typeName.getD "")).toList

def resolve (table : ConversionTable) (field : FieldDescriptor) : Except Error TypeInfo := do
  let some type := field.fieldType? | .error (.typeUnresolvable field.name)
  let element ← table.elementType type field
  let info : TypeInfo := {
    name := element.name
    innerName := element.name
    accessor := element.accessor
    isPrimitive := type != .message && type != .enum
    isEnum := type == .enum
    isRepeated := field.isRepeated
    isResult := isResultReference type field }
  if field.isRepeated then
    match table.repeated with
    | some wrapper =>
        return { info with
          name := wrapper.wrap element.name
          accessor := (wrapper.accessorFor field.name).getD element.accessor }
    | none => .error (.repeatedConversionMissing field.name)
  else return info

end ConversionTable
end BindingPress
