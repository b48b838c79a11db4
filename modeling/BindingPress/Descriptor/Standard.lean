import BindingPress.Descriptor

/-! The messages that options are given in, for files that bring no description of their own. -/

namespace BindingPress.StandardOptions

def reference (name : String) : String :=
  ".google.protobuf." ++ name

def flag (name : String) (number : Int) : FieldDescriptor :=
  { name, number, label := some 1, type := some 8 }

def text (name : String) (number : Int) : FieldDescriptor :=
  { name, number, label := some 1, type := some 9 }

def integer (name : String) (number : Int) : FieldDescriptor :=
  { name, number, label := some 1, type := some 5 }

def choice (name : String) (number : Int) (type : String) : FieldDescriptor :=
  { name, number, label := some 1, type := some 14, typeName := some (reference type) }

def part (name : String) (number : Int) (type : String) : FieldDescriptor :=
  { name, number, label := some 1, type := some 11, typeName := some (reference type) }

def several (field : FieldDescriptor) : FieldDescriptor :=
  { field with label := some FieldDescriptor.repeatedLabel }

def enumeration (name : String) (values : List (String × Int)) : EnumDescriptor :=
  { name, values := values.map fun (name, number) => { name, given := some number } }

def features (number : Int) : FieldDescriptor :=
  part "features" number "FeatureSet"

def given : FieldDescriptor :=
  several (part "uninterpreted_option" 999 "UninterpretedOption")

def extensible : List NumberRange := [{ first := 1000, limit := 536870912 }]

def fileOptions : MessageDescriptor where
  name := "FileOptions"
  fields := [
    text "java_package" 1, text "java_outer_classname" 8, flag "java_multiple_files" 10,
    flag "java_generate_equals_and_hash" 20, flag "java_string_check_utf8" 27,
    choice "optimize_for" 9 "FileOptions.OptimizeMode", text "go_package" 11,
    flag "cc_generic_services" 16, flag "java_generic_services" 17, flag "py_generic_services" 18,
    flag "php_generic_services" 42, flag "deprecated" 23, flag "cc_enable_arenas" 31,
    text "objc_class_prefix" 36, text "csharp_namespace" 37, text "swift_prefix" 39,
    text "php_class_prefix" 40, text "php_namespace" 41, text "php_metadata_namespace" 44,
    text "ruby_package" 45, features 50, given]
  enums := [enumeration "OptimizeMode" [("SPEED", 1), ("CODE_SIZE", 2), ("LITE_RUNTIME", 3)]]
  extensionRanges := extensible

def messageOptions : MessageDescriptor where
  name := "MessageOptions"
  fields := [
    flag "message_set_wire_format" 1, flag "no_standard_descriptor_accessor" 2,
    flag "deprecated" 3, flag "map_entry" 7, flag "deprecated_legacy_json_field_conflicts" 11,
    features 12, given]
  extensionRanges := extensible

def fieldOptions : MessageDescriptor where
  name := "FieldOptions"
  fields := [
    choice "ctype" 1 "FieldOptions.CType", flag "packed" 2,
    choice "jstype" 6 "FieldOptions.JSType", flag "lazy" 5, flag "unverified_lazy" 15,
    flag "deprecated" 3, flag "weak" 10, flag "debug_redact" 16,
    choice "retention" 17 "FieldOptions.OptionRetention",
    several (choice "targets" 19 "FieldOptions.OptionTargetType"),
    several (part "edition_defaults" 20 "FieldOptions.EditionDefault"), features 21, given]
  messages := [{
    name := "EditionDefault"
    fields := [choice "edition" 3 "Edition", text "value" 2] }]
  enums := [
    enumeration "CType" [("STRING", 0), ("CORD", 1), ("STRING_PIECE", 2)],
    enumeration "JSType" [("JS_NORMAL", 0), ("JS_STRING", 1), ("JS_NUMBER", 2)],
    enumeration "OptionRetention"
      [("RETENTION_UNKNOWN", 0), ("RETENTION_RUNTIME", 1), ("RETENTION_SOURCE", 2)],
    enumeration "OptionTargetType" [
      ("TARGET_TYPE_UNKNOWN", 0), ("TARGET_TYPE_FILE", 1), ("TARGET_TYPE_EXTENSION_RANGE", 2),
      ("TARGET_TYPE_MESSAGE", 3), ("TARGET_TYPE_FIELD", 4), ("TARGET_TYPE_ONEOF", 5),
      ("TARGET_TYPE_ENUM", 6), ("TARGET_TYPE_ENUM_ENTRY", 7), ("TARGET_TYPE_SERVICE", 8),
      ("TARGET_TYPE_METHOD", 9)]]
  extensionRanges := extensible

def oneofOptions : MessageDescriptor where
  name := "OneofOptions"
  fields := [features 1, given]
  extensionRanges := extensible

def enumOptions : MessageDescriptor where
  name := "EnumOptions"
  fields := [
    flag "allow_alias" 2, flag "deprecated" 3, flag "deprecated_legacy_json_field_conflicts" 6,
    features 7, given]
  extensionRanges := extensible

def enumValueOptions : MessageDescriptor where
  name := "EnumValueOptions"
  fields := [flag "deprecated" 1, features 2, flag "debug_redact" 3, given]
  extensionRanges := extensible

def serviceOptions : MessageDescriptor where
  name := "ServiceOptions"
  fields := [features 34, flag "deprecated" 33, given]
  extensionRanges := extensible

def methodOptions : MessageDescriptor where
  name := "MethodOptions"
  fields := [
    flag "deprecated" 33, choice "idempotency_level" 34 "MethodOptions.IdempotencyLevel",
    features 35, given]
  enums := [
    enumeration "IdempotencyLevel"
      [("IDEMPOTENCY_UNKNOWN", 0), ("NO_SIDE_EFFECTS", 1), ("IDEMPOTENT", 2)]]
  extensionRanges := extensible

def extensionRangeOptions : MessageDescriptor where
  name := "ExtensionRangeOptions"
  fields := [
    given, several (part "declaration" 2 "ExtensionRangeOptions.Declaration"), features 50,
    choice "verification" 3 "ExtensionRangeOptions.VerificationState"]
  messages := [{
    name := "Declaration"
    fields := [
      integer "number" 1, text "full_name" 2, text "type" 3, flag "reserved" 5,
      flag "repeated" 6] }]
  enums := [enumeration "VerificationState" [("DECLARATION", 0), ("UNVERIFIED", 1)]]
  extensionRanges := extensible

def featureSet : MessageDescriptor where
  name := "FeatureSet"
  fields := [
    choice "field_presence" 1 "FeatureSet.FieldPresence",
    choice "enum_type" 2 "FeatureSet.EnumType",
    choice "repeated_field_encoding" 3 "FeatureSet.RepeatedFieldEncoding",
    choice "utf8_validation" 4 "FeatureSet.Utf8Validation",
    choice "message_encoding" 5 "FeatureSet.MessageEncoding",
    choice "json_format" 6 "FeatureSet.JsonFormat"]
  enums := [
    enumeration "FieldPresence"
      [("FIELD_PRESENCE_UNKNOWN", 0), ("EXPLICIT", 1), ("IMPLICIT", 2), ("LEGACY_REQUIRED", 3)],
    enumeration "EnumType" [("ENUM_TYPE_UNKNOWN", 0), ("OPEN", 1), ("CLOSED", 2)],
    enumeration "RepeatedFieldEncoding"
      [("REPEATED_FIELD_ENCODING_UNKNOWN", 0), ("PACKED", 1), ("EXPANDED", 2)],
    enumeration "Utf8Validation" [("UTF8_VALIDATION_UNKNOWN", 0), ("VERIFY", 2), ("NONE", 3)],
    enumeration "MessageEncoding"
      [("MESSAGE_ENCODING_UNKNOWN", 0), ("LENGTH_PREFIXED", 1), ("DELIMITED", 2)],
    enumeration "JsonFormat"
      [("JSON_FORMAT_UNKNOWN", 0), ("ALLOW", 1), ("LEGACY_BEST_EFFORT", 2)]]

def uninterpretedOption : MessageDescriptor where
  name := "UninterpretedOption"
  fields := [
    several (part "name" 2 "UninterpretedOption.NamePart"), text "identifier_value" 3,
    { name := "positive_int_value", number := 4, label := some 1, type := some 4 },
    { name := "negative_int_value", number := 5, label := some 1, type := some 3 },
    { name := "double_value", number := 6, label := some 1, type := some 1 },
    { name := "string_value", number := 7, label := some 1, type := some 12 },
    text "aggregate_value" 8]
  messages := [{
    name := "NamePart"
    fields := [text "name_part" 1, flag "is_extension" 2] }]

def editions : EnumDescriptor :=
  enumeration "Edition" [
    ("EDITION_UNKNOWN", 0), ("EDITION_PROTO2", 998), ("EDITION_PROTO3", 999),
    ("EDITION_2023", 1000), ("EDITION_2024", 1001), ("EDITION_1_TEST_ONLY", 1),
    ("EDITION_2_TEST_ONLY", 2), ("EDITION_99997_TEST_ONLY", 99997),
    ("EDITION_99998_TEST_ONLY", 99998), ("EDITION_99999_TEST_ONLY", 99999)]

def file : FileDescriptor where
  name := "google/protobuf/descriptor.proto"
  package := "google.protobuf"
  messages := [
    fileOptions, messageOptions, fieldOptions, oneofOptions, enumOptions, enumValueOptions,
    serviceOptions, methodOptions, extensionRangeOptions, featureSet, uninterpretedOption]
  enums := [editions]

end BindingPress.StandardOptions
