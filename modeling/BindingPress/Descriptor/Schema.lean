import BindingPress.Descriptor.Kind
import BindingPress.Wire.Message

/-! The encoding of descriptors: what the fields of each kind of message hold. -/

namespace BindingPress

open Wire (Slot Schema)

namespace DescriptorKind

private abbrev text : Option (Slot DescriptorKind) := some .text
private abbrev number : Option (Slot DescriptorKind) := some (.number .varint false)
private abbrev numbers : Option (Slot DescriptorKind) := some (.number .varint true)
private abbrev part (kind : DescriptorKind) : Option (Slot DescriptorKind) := some (.message kind)

/-- The field of options that holds those that are given by name. -/
def givenPlace : Nat := 999

def schema : Schema DescriptorKind
  | .request, 1 => text
  | .request, 2 => text
  | .request, 3 => part .compilerVersion
  | .request, 15 => part .file
  | .compilerVersion, 1 => number
  | .compilerVersion, 2 => number
  | .compilerVersion, 3 => number
  | .compilerVersion, 4 => text
  | .fileSet, 1 => part .file
  | .file, 1 => text
  | .file, 2 => text
  | .file, 3 => text
  | .file, 4 => part .message
  | .file, 5 => part .enum
  | .file, 6 => part .service
  | .file, 7 => part .field
  | .file, 8 => part .fileOptions
  | .file, 9 => part .sourceInfo
  | .file, 10 => numbers
  | .file, 11 => numbers
  | .file, 12 => text
  | .message, 1 => text
  | .message, 2 => part .field
  | .message, 3 => part .message
  | .message, 4 => part .enum
  | .message, 5 => part .extensionRange
  | .message, 6 => part .field
  | .message, 7 => part .messageOptions
  | .message, 8 => part .oneof
  | .message, 9 => part .reservedRange
  | .message, 10 => text
  | .field, 1 => text
  | .field, 2 => text
  | .field, 3 => number
  | .field, 4 => number
  | .field, 5 => number
  | .field, 6 => text
  | .field, 7 => text
  | .field, 8 => part .fieldOptions
  | .field, 9 => number
  | .field, 10 => text
  | .field, 17 => number
  | .enum, 1 => text
  | .enum, 2 => part .enumValue
  | .enum, 3 => part .enumOptions
  | .enum, 4 => part .reservedRange
  | .enum, 5 => text
  | .enumValue, 1 => text
  | .enumValue, 2 => number
  | .enumValue, 3 => part .enumValueOptions
  | .oneof, 1 => text
  | .oneof, 2 => part .oneofOptions
  | .service, 1 => text
  | .service, 2 => part .method
  | .service, 3 => part .serviceOptions
  | .method, 1 => text
  | .method, 2 => text
  | .method, 3 => text
  | .method, 4 => part .methodOptions
  | .method, 5 => number
  | .method, 6 => number
  | .extensionRange, 1 => number
  | .extensionRange, 2 => number
  | .extensionRange, 3 => part .extensionRangeOptions
  | .reservedRange, 1 => number
  | .reservedRange, 2 => number
  | .sourceInfo, 1 => part .location
  | .location, 1 => numbers
  | .location, 2 => numbers
  | .location, 3 => text
  | .location, 4 => text
  | .location, 6 => text
  | .givenOption, 2 => part .givenPart
  | .givenOption, 3 => text
  | .givenOption, 4 => number
  | .givenOption, 5 => number
  | .givenOption, 6 => some (.number .fixed64 false)
  | .givenOption, 7 => some .blob
  | .givenOption, 8 => text
  | .givenPart, 1 => text
  | .givenPart, 2 => number
  | .fileOptions, 1 => text
  | .fileOptions, 8 => text
  | .fileOptions, 9 => number
  | .fileOptions, 10 => number
  | .fileOptions, 11 => text
  | .fileOptions, 16 => number
  | .fileOptions, 17 => number
  | .fileOptions, 18 => number
  | .fileOptions, 20 => number
  | .fileOptions, 23 => number
  | .fileOptions, 27 => number
  | .fileOptions, 31 => number
  | .fileOptions, 36 => text
  | .fileOptions, 37 => text
  | .fileOptions, 39 => text
  | .fileOptions, 40 => text
  | .fileOptions, 41 => text
  | .fileOptions, 42 => number
  | .fileOptions, 44 => text
  | .fileOptions, 45 => text
  | .messageOptions, 1 => number
  | .messageOptions, 2 => number
  | .messageOptions, 3 => number
  | .messageOptions, 7 => number
  | .fieldOptions, 1 => number
  | .fieldOptions, 2 => number
  | .fieldOptions, 3 => number
  | .fieldOptions, 5 => number
  | .fieldOptions, 6 => number
  | .fieldOptions, 10 => number
  | .enumOptions, 2 => number
  | .enumOptions, 3 => number
  | .enumValueOptions, 1 => number
  | .serviceOptions, 33 => number
  | .methodOptions, 33 => number
  | .methodOptions, 34 => number
  | kind, place => if kind.isOptions && place = givenPlace then part .givenOption else none

end DescriptorKind
end BindingPress
