import BindingPress.Descriptor.Decode
import BindingPress.Proofs.Interpretation

/-!
The options of the methods and fields of a file are kept as bytes. In a file that could be read
these bytes are records, also where a declaration gives its options in several pieces.
-/

namespace BindingPress

namespace Wire.Entries

theorem mem_messages {entries inner : Entries} {number : Nat}
    (member : inner ∈ entries.messages number) :
    ∃ bytes, .message bytes inner ∈ entries.values number := by
  obtain ⟨value, among, same⟩ := List.mem_filterMap.mp member
  cases value with
  | message bytes entries =>
      obtain rfl := Option.some.inj same
      exact ⟨bytes, among⟩
  | number | text | blob => simp at same

end Wire.Entries

namespace FileDescriptor

open DescriptorKind (schema)

variable {raw : Bytes} {file : FileDescriptor} (decoded : decode? raw = some file)

include decoded

theorem method_records {service : ServiceDescriptor} (declared : service ∈ file.services)
    {method : MethodDescriptor} (within : method ∈ service.methods) :
    ∃ records, Wire.records? method.options = some records := by
  obtain ⟨entries, read, rfl⟩ := Option.map_eq_some_iff.mp decoded
  obtain ⟨records, _, interpreted⟩ := Wire.readCopying?_eq_some.mp read
  obtain ⟨serviceEntries, serviceMember, rfl⟩ := List.mem_map.mp declared
  obtain ⟨methodEntries, methodMember, rfl⟩ := List.mem_map.mp within
  obtain ⟨_, serviceValue⟩ := Wire.Entries.mem_messages serviceMember
  obtain ⟨_, methodValue⟩ := Wire.Entries.mem_messages methodMember
  have services : schema .file 6 = some (.message .service) := rfl
  have methods : schema .service 2 = some (.message .method) := rfl
  have options : schema .method 4 = some (.message .methodOptions) := rfl
  obtain ⟨_, readService⟩ := Wire.interpret?_of_mem services interpreted serviceValue
  obtain ⟨_, readMethod⟩ := Wire.interpret?_of_mem methods readService methodValue
  exact Wire.interpret?_raw options readMethod

theorem field_records {message : MessageDescriptor} (declared : message ∈ file.messages)
    {field : FieldDescriptor} (within : field ∈ message.fields) :
    ∃ records, Wire.records? field.options = some records := by
  obtain ⟨entries, read, rfl⟩ := Option.map_eq_some_iff.mp decoded
  obtain ⟨records, _, interpreted⟩ := Wire.readCopying?_eq_some.mp read
  obtain ⟨datum, messageValue, rfl⟩ := List.mem_map.mp declared
  cases datum with
  | number | text | blob => simp [MessageDescriptor.ofDatum] at within
  | message bytes messageEntries =>
      obtain ⟨fieldEntries, fieldMember, rfl⟩ := List.mem_map.mp within
      obtain ⟨_, fieldValue⟩ := Wire.Entries.mem_messages fieldMember
      have messages : schema .file 4 = some (.message .message) := rfl
      have fields : schema .message 2 = some (.message .field) := rfl
      have options : schema .field 8 = some (.message .fieldOptions) := rfl
      obtain ⟨_, readMessage⟩ := Wire.interpret?_of_mem messages interpreted messageValue
      obtain ⟨_, readField⟩ := Wire.interpret?_of_mem fields readMessage fieldValue
      exact Wire.interpret?_raw options readField

end FileDescriptor
end BindingPress
