import BindingPress.Descriptor
import BindingPress.Descriptor.Schema

/-! Descriptors and requests, made of the entries of their encoded form. -/

namespace BindingPress

open Wire (Datum Entries)

def EnumValueDescriptor.ofEntries (entries : Entries) : EnumValueDescriptor where
  name := entries.text 1
  given := entries.int32? 2
  options := entries.raw 3

def FieldDescriptor.ofEntries (entries : Entries) : FieldDescriptor where
  name := entries.text 1
  extendee := entries.text? 2
  number := entries.int32 3
  label := entries.int32? 4
  type := entries.int32? 5
  typeName := entries.text? 6
  defaultValue := entries.text? 7
  oneofIndex := entries.int32? 9
  jsonName := entries.text? 10
  isOptional := entries.flag 17
  options := entries.raw 8

def NumberRange.ofEntries (entries : Entries) : NumberRange where
  first := entries.int32 1
  limit := entries.int32 2
  options := entries.raw 3

/-- The last number of a range that an enum reserves belongs to it. -/
def NumberRange.ofInclusiveEntries (entries : Entries) : NumberRange where
  first := entries.int32 1
  limit := entries.int32 2 + 1

def EnumDescriptor.ofEntries (entries : Entries) : EnumDescriptor where
  name := entries.text 1
  values := (entries.messages 2).map EnumValueDescriptor.ofEntries
  reservedRanges := (entries.messages 4).map NumberRange.ofInclusiveEntries
  allowAlias := (entries.merged 3).flag 2
  options := entries.raw 3

def OneofDescriptor.ofEntries (entries : Entries) : OneofDescriptor where
  name := entries.text 1
  options := entries.raw 2

mutual

def MessageDescriptor.ofDatum : Datum → MessageDescriptor
  | .message _ entries => {
      name := Entries.text entries 1
      fields := (Entries.messages entries 2).map FieldDescriptor.ofEntries
      messages := nestedMessages entries
      enums := (Entries.messages entries 4).map EnumDescriptor.ofEntries
      extensionRanges := (Entries.messages entries 5).map NumberRange.ofEntries
      extensions := (Entries.messages entries 6).map FieldDescriptor.ofEntries
      oneofs := (Entries.messages entries 8).map OneofDescriptor.ofEntries
      reservedRanges := (Entries.messages entries 9).map NumberRange.ofEntries
      isMapEntry := Entries.flag (Entries.merged entries 7) 7
      options := Entries.raw entries 7 }
  | _ => {}

/-- The messages that are declared within one whose entries are given. -/
def nestedMessages : List (Nat × Datum) → List MessageDescriptor
  | [] => []
  | (field, value) :: rest =>
      if field = 3 then MessageDescriptor.ofDatum value :: nestedMessages rest
      else nestedMessages rest

end

def MethodDescriptor.ofEntries (entries : Entries) : MethodDescriptor where
  name := entries.text 1
  inputType := entries.text 2
  outputType := entries.text 3
  clientStreaming := entries.flag 5
  serverStreaming := entries.flag 6
  options := entries.raw 4

def ServiceDescriptor.ofEntries (entries : Entries) : ServiceDescriptor where
  name := entries.text 1
  methods := (entries.messages 2).map MethodDescriptor.ofEntries
  options := entries.raw 3

def Location.ofEntries (entries : Entries) : Location where
  path := entries.int32s 1
  leading := entries.text? 3
  trailing := entries.text? 4
  detached := entries.texts 6

namespace FileDescriptor

def ofEntries (entries : Entries) : FileDescriptor where
  name := entries.text 1
  package := entries.text 2
  dependencies := entries.texts 3
  publicDependencies := entries.int32s 10
  weakDependencies := entries.int32s 11
  messages := (entries.values 4).map MessageDescriptor.ofDatum
  enums := (entries.messages 5).map EnumDescriptor.ofEntries
  services := (entries.messages 6).map ServiceDescriptor.ofEntries
  extensions := (entries.messages 7).map FieldDescriptor.ofEntries
  javaPackage := (entries.merged 8).text 1
  locations := ((entries.merged 9).messages 1).map Location.ofEntries
  version := ((entries.text? 12).map SchemaVersion.ofName).getD .proto2
  options := entries.raw 8

def decode? (bytes : Bytes) : Option FileDescriptor :=
  (Wire.read? DescriptorKind.schema .file bytes).map ofEntries

end FileDescriptor

/-- What a compiler front end asks for. -/
structure Request where
  parameter : String := ""
  files : List FileDescriptor := []
deriving Repr

namespace Request

def ofEntries (entries : Entries) : Request where
  parameter := entries.text 2
  files := (entries.messages 15).map FileDescriptor.ofEntries

def decode? (bytes : Bytes) : Option Request :=
  (Wire.read? DescriptorKind.schema .request bytes).map ofEntries

/-- A request of which only the files are read, and these not any further. -/
def rawSchema : Wire.Schema Unit
  | (), 15 => some .blob
  | _, _ => none

def rawFiles? (bytes : Bytes) : Option (List Bytes) :=
  (Wire.read? rawSchema () bytes).map fun entries => entries.blobs 15

end Request

structure FileSet where
  files : List Bytes
deriving Repr, DecidableEq

namespace FileSet

def encode (set : FileSet) : Bytes :=
  set.files.flatMap (Wire.chunk 1)

/-- A set of which the files are not read any further. -/
def rawSchema : Wire.Schema Unit
  | (), 1 => some .blob
  | _, _ => none

def decode? (bytes : Bytes) : Option FileSet :=
  (Wire.read? rawSchema () bytes).map fun entries => ⟨entries.blobs 1⟩

/-- The files of an encoded set, with copies of all options. -/
def descriptors? (bytes : Bytes) : Option (List FileDescriptor) :=
  let read := Wire.readCopying? DescriptorKind.schema DescriptorKind.isOptions .fileSet bytes
  read.map fun entries => (entries.messages 1).map FileDescriptor.ofEntries

end FileSet
end BindingPress
