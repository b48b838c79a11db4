/-! The kinds of message that the encoding of descriptors is made of. -/

namespace BindingPress

inductive DescriptorKind where
  | request | compilerVersion | fileSet | file | message | field | enum | enumValue | oneof
  | service | method | extensionRange | reservedRange | sourceInfo | location
  | fileOptions | messageOptions | fieldOptions | oneofOptions | enumOptions | enumValueOptions
  | serviceOptions | methodOptions | extensionRangeOptions
  | givenOption | givenPart
deriving Repr, DecidableEq

namespace DescriptorKind

def isOptions : DescriptorKind → Bool
  | .fileOptions | .messageOptions | .fieldOptions | .oneofOptions | .enumOptions
  | .enumValueOptions | .serviceOptions | .methodOptions | .extensionRangeOptions => true
  | _ => false

/-- The full name of a kind of options. -/
def optionsName : DescriptorKind → String
  | .fileOptions => "google.protobuf.FileOptions"
  | .messageOptions => "google.protobuf.MessageOptions"
  | .fieldOptions => "google.protobuf.FieldOptions"
  | .oneofOptions => "google.protobuf.OneofOptions"
  | .enumOptions => "google.protobuf.EnumOptions"
  | .enumValueOptions => "google.protobuf.EnumValueOptions"
  | .serviceOptions => "google.protobuf.ServiceOptions"
  | .methodOptions => "google.protobuf.MethodOptions"
  | .extensionRangeOptions => "google.protobuf.ExtensionRangeOptions"
  | _ => ""

end DescriptorKind
end BindingPress
