import BindingPress.Descriptor.Decode
import BindingPress.Proofs.Interpretation

/-!
The files of a request are read twice: once as descriptors, and once as bytes that are put together
into a set. Both readings see the same files, whatever else the request holds.
-/

namespace BindingPress

open Wire (Content Record Slot chunksOf)

theorem Wire.Content.height_chunk (bytes : Bytes) : (Content.chunk bytes).height = 1 := by
  simp [Content.height]

theorem FileDescriptor.decode?_of_inner {copied : DescriptorKind → Bool} {raw : Bytes}
    {records : List Record} {entries : Wire.Entries} (spelled : Wire.records? raw = some records)
    (read : Wire.inner? DescriptorKind.schema copied Wire.depthLimit .file records = some entries) :
    FileDescriptor.decode? raw = some (FileDescriptor.ofEntries entries) := by
  have whole : Wire.interpret? DescriptorKind.schema (fun _ => false) Wire.depthLimit .file
      records = some entries :=
    Wire.interpret?_weaken (by decide) (by simp) read
  exact Option.map_eq_some_iff.mpr
    ⟨entries, Wire.readCopying?_eq_some.mpr ⟨records, spelled, whole⟩, rfl⟩

namespace FileSet

theorem records?_encode {files : List Bytes} {records : List Record} :
    Wire.records? (encode ⟨files⟩) = some records ↔
      (∀ file ∈ files, file.length < Wire.sizeLimit) ∧
        records = files.map fun file => (1, .chunk file) := by
  have parts : encode ⟨files⟩ =
      (files.map fun file => (1, file)).flatMap fun part => Wire.chunk part.1 part.2 := by
    rw [encode, List.flatMap_map]
  rw [parts, Wire.records?_chunks (by simp [Wire.keyLimit]), List.map_map]
  simp only [List.forall_mem_map]
  rfl

theorem chunksOf_files (files : List Bytes) :
    chunksOf 1 (files.map fun file => (1, .chunk file)) = files := by
  induction files with
  | nil => rfl
  | cons file files ih =>
      rw [chunksOf] at ih
      rw [List.map_cons, chunksOf, Wire.contentsOf_cons, if_pos rfl, List.filterMap_cons, ih]

theorem decode?_encode {files : List Bytes}
    (fits : ∀ file ∈ files, file.length < Wire.sizeLimit) :
    decode? (encode ⟨files⟩) = some ⟨files⟩ := by
  have spelled := records?_encode.mpr ⟨fits, rfl⟩
  have readable : ∃ entries, Wire.interpret? rawSchema (fun _ => false) Wire.depthLimit ()
      (files.map fun file => (1, .chunk file)) = some entries := by
    rw [Wire.interpret?_succeeds_iff]
    intro record member
    obtain ⟨file, _, rfl⟩ := List.mem_map.mp member
    exact ⟨_, rfl⟩
  obtain ⟨entries, read⟩ := readable
  refine Option.map_eq_some_iff.mpr
    ⟨entries, Wire.readCopying?_eq_some.mpr ⟨_, spelled, read⟩, ?_⟩
  rw [Wire.interpret?_blobs rfl read, chunksOf_files]

end FileSet

namespace Request

theorem schema_slot {number : Nat} {slot : Slot DescriptorKind}
    (known : DescriptorKind.schema .request number = some slot) :
    slot = .text ∨ ∃ kind, slot = .message kind := by
  match number with
  | 1 | 2 => exact .inl (Option.some.inj known).symm
  | 3 | 15 => exact .inr ⟨_, (Option.some.inj known).symm⟩
  | 0 | 4 | 5 | 6 | 7 | 8 | 9 | 10 | 11 | 12 | 13 | 14 | _ + 16 => nomatch known

theorem rawSchema_reads {below : DescriptorKind → List Record → Option Wire.Entries}
    {below' : Unit → List Record → Option Wire.Entries} {depth : Nat} {record : Record}
    {part : Wire.Entries}
    (read : Wire.entries? DescriptorKind.schema (fun _ => false) (depth + 1) below .request record =
      some part) :
    ∃ raw, Wire.entries? rawSchema (fun _ => false) (depth + 1) below' () record = some raw := by
  obtain ⟨number, content⟩ := record
  by_cases isFile : number = 15
  · subst isFile
    obtain ⟨_, data, given, _⟩ := (Wire.entries?_known rfl).mp read
    obtain ⟨bytes, _, _, rfl, _⟩ := Wire.data?_message.mp given
    exact ⟨_, rfl⟩
  · have unread : rawSchema () number = none := by
      unfold rawSchema
      split
      · exact absurd rfl isFile
      · rfl
    refine ⟨[], (Wire.entries?_unknown unread).mpr ⟨?_, rfl⟩⟩
    cases known : DescriptorKind.schema .request number with
    | none => exact ((Wire.entries?_unknown known).mp read).1
    | some slot =>
        obtain ⟨_, data, given, _⟩ := (Wire.entries?_known known).mp read
        have held : ∃ bytes, content = .chunk bytes := by
          rcases schema_slot known with rfl | ⟨kind, rfl⟩
          · obtain ⟨bytes, _, same, _⟩ := Wire.data?_text.mp given
            exact ⟨bytes, same⟩
          · obtain ⟨bytes, _, _, same, _⟩ := Wire.data?_message.mp given
            exact ⟨bytes, same⟩
        obtain ⟨bytes, rfl⟩ := held
        rw [Content.height_chunk]
        omega

variable {bytes : Bytes} {request : Request}

/-- The second reading finds the bytes of the very files that the first one reads, and a set of them
loses nothing. -/
theorem decode?_rawFiles (read : decode? bytes = some request) :
    ∃ files, rawFiles? bytes = some files ∧
      List.Forall₂ (fun raw file => FileDescriptor.decode? raw = some file) files request.files ∧
      FileSet.decode? (FileSet.encode ⟨files⟩) = some ⟨files⟩ := by
  obtain ⟨entries, interpreted, rfl⟩ := Option.map_eq_some_iff.mp read
  obtain ⟨records, spelled, interpreted⟩ := Wire.readCopying?_eq_some.mp interpreted
  have rawReadable : ∃ entries, Wire.interpret? rawSchema (fun _ => false) Wire.depthLimit ()
      records = some entries := by
    rw [Wire.interpret?_succeeds_iff]
    intro record member
    obtain ⟨part, readRecord⟩ :=
      Wire.interpret?_succeeds_iff.mp ⟨entries, interpreted⟩ record member
    exact rawSchema_reads readRecord
  obtain ⟨rawEntries, rawInterpreted⟩ := rawReadable
  refine ⟨chunksOf 15 records, ?_, ?_, ?_⟩
  · rw [← Wire.interpret?_blobs rfl rawInterpreted]
    exact Option.map_eq_some_iff.mpr
      ⟨rawEntries, Wire.readCopying?_eq_some.mpr ⟨records, spelled, rawInterpreted⟩, rfl⟩
  · rw [ofEntries, List.forall₂_map_right_iff]
    refine (Wire.interpret?_messages rfl interpreted).imp fun raw inner within => ?_
    obtain ⟨innerRecords, innerSpelled, innerRead⟩ := within
    exact FileDescriptor.decode?_of_inner innerSpelled innerRead
  · refine FileSet.decode?_encode fun file member => ?_
    exact (Wire.records?_eq_some.mp spelled).chunk_length (Wire.mem_chunksOf.mp member)

def mixedRequest : Bytes :=
  [0x7a, 3, 0x0a, 1, 0x61, 0xa3, 1, 0x08, 5, 0xa4, 1, 0x12, 0, 0x7a, 0]

theorem mixedRequest_rawFiles :
    ∃ request, decode? mixedRequest = some request ∧
      request.files.map (·.name) = ["a", ""] ∧
      ∃ files, rawFiles? mixedRequest = some files ∧
        List.Forall₂ (fun raw file => FileDescriptor.decode? raw = some file) files
          request.files ∧
        FileSet.decode? (FileSet.encode ⟨files⟩) = some ⟨files⟩ := by
  have named : (decode? mixedRequest).map (fun request => request.files.map (·.name)) =
      some ["a", ""] := by
    decide +kernel
  obtain ⟨request, read, names⟩ := Option.map_eq_some_iff.mp named
  exact ⟨request, read, names, decode?_rawFiles read⟩

end Request
end BindingPress
