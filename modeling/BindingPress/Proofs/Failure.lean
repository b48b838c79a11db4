import BindingPress.Proofs.Correspondence
import BindingPress.Proofs.Payload

/-!
When a file has no model, and which error says so. Every field is tried before any method, and
among the fields, as among the methods, the first that fails in the order of declaration decides.
-/

namespace BindingPress

section FirstFailure

variable {α β γ ε : Type} {fails : α → ε → Prop}

/-- The first element that fails at all fails with this error. -/
def FailsFirst (fails : α → ε → Prop) (elements : List α) (error : ε) : Prop :=
  ∃ before element after, elements = before ++ element :: after ∧
    (∀ earlier ∈ before, ∀ other, ¬fails earlier other) ∧ fails element error

theorem not_failsFirst_nil (error : ε) : ¬FailsFirst fails [] error := by
  rintro ⟨before, element, after, split, _⟩
  simp at split

theorem failsFirst_append (front back : List α) (error : ε) :
    FailsFirst fails (front ++ back) error ↔
      FailsFirst fails front error ∨
        (∀ element ∈ front, ∀ other, ¬fails element other) ∧ FailsFirst fails back error := by
  constructor
  · rintro ⟨before, element, after, split, passed, failed⟩
    rcases List.append_eq_append_iff.mp split with ⟨rest, rfl, rfl⟩ | ⟨rest, rfl, others⟩
    · refine .inr ⟨fun earlier member => passed earlier (List.mem_append_left _ member), ?_⟩
      exact ⟨rest, element, after, rfl,
        fun earlier member => passed earlier (List.mem_append_right _ member), failed⟩
    · cases rest with
      | nil =>
          refine .inr ⟨by simpa using passed, [], element, after, ?_, by simp, failed⟩
          simpa using others.symm
      | cons head rest =>
          obtain ⟨rfl, rfl⟩ := List.cons.inj others
          exact .inl ⟨before, element, rest, rfl, passed, failed⟩
  · rintro (⟨before, element, after, rfl, passed, failed⟩ |
      ⟨clean, before, element, after, rfl, passed, failed⟩)
    · exact ⟨before, element, after ++ back, by simp, passed, failed⟩
    · refine ⟨front ++ before, element, after, by simp, ?_, failed⟩
      intro earlier member
      rcases List.mem_append.mp member with inFront | inBefore
      · exact clean earlier inFront
      · exact passed earlier inBefore

theorem failsFirst_singleton (element : α) (error : ε) :
    FailsFirst fails [element] error ↔ fails element error := by
  constructor
  · rintro ⟨before, found, after, split, _, failed⟩
    obtain ⟨rfl, rfl, rfl⟩ : before = [] ∧ element = found ∧ after = [] := by
      cases before <;> simp_all
    exact failed
  · intro failed
    exact ⟨[], element, [], rfl, by simp, failed⟩

theorem failsFirst_cons (element : α) (rest : List α) (error : ε) :
    FailsFirst fails (element :: rest) error ↔
      fails element error ∨ (∀ other, ¬fails element other) ∧ FailsFirst fails rest error := by
  rw [← List.singleton_append, failsFirst_append, failsFirst_singleton]
  simp

theorem exists_failsFirst_iff (elements : List α) :
    (∃ error, FailsFirst fails elements error) ↔
      ∃ element ∈ elements, ∃ error, fails element error := by
  induction elements with
  | nil => simp [not_failsFirst_nil]
  | cons element rest ih =>
      by_cases failed : ∃ error, fails element error
      · obtain ⟨error, failed⟩ := failed
        have first := (failsFirst_cons element rest error).mpr (.inl failed)
        exact ⟨fun _ => ⟨element, List.mem_cons_self, error, failed⟩, fun _ => ⟨error, first⟩⟩
      · have passed : ∀ other, ¬fails element other := fun other found => failed ⟨other, found⟩
        simp only [failsFirst_cons, passed, false_or, not_false_eq_true, implies_true, true_and, ih,
          List.mem_cons, exists_eq_or_imp, exists_false]

theorem failsFirst_flatMap (inner : γ → List α) (outer : List γ) (error : ε) :
    FailsFirst fails (outer.flatMap inner) error ↔
      FailsFirst (fun part => FailsFirst fails (inner part)) outer error := by
  induction outer with
  | nil => simp [not_failsFirst_nil]
  | cons part rest ih =>
      have clean : (∀ element ∈ inner part, ∀ other, ¬fails element other) ↔
          ∀ other, ¬FailsFirst fails (inner part) other := by
        have neither := not_congr (@exists_failsFirst_iff α ε fails (inner part))
        push Not at neither
        exact neither.symm
      rw [List.flatMap_cons, failsFirst_append, failsFirst_cons, ih, clean]

theorem exists_failsFirst_flatMap_iff (inner : γ → List α) (outer : List γ) :
    (∃ error, FailsFirst fails (outer.flatMap inner) error) ↔
      ∃ part ∈ outer, ∃ element ∈ inner part, ∃ error, fails element error := by
  simp only [failsFirst_flatMap, exists_failsFirst_iff]

theorem tryMapFrom_failsFirst {f : Nat → α → Except ε β}
    (decides : ∀ index element error, f index element = .error error ↔ fails element error)
    (start : Nat) (elements : List α) (error : ε) :
    tryMapFrom f start elements = .error error ↔ FailsFirst fails elements error := by
  induction elements generalizing start with
  | nil => simp [tryMapFrom, not_failsFirst_nil]
  | cons element rest ih =>
      have passes : (∃ result, f start element = .ok result) ↔ ∀ other, ¬fails element other := by
        simp only [← decides start]
        cases f start element <;> simp
      simp only [tryMapFrom, bind_eq_error, pure, Except.pure, reduceCtorEq, and_false,
        exists_false, or_false, ih, decides, failsFirst_cons, ← passes, exists_and_right]

end FirstFailure

def FileDescriptor.Offers (file : FileDescriptor) (letters type : String) : Prop :=
  ∃ message ∈ file.messages, IsLastPart type message.name ∧ message.ends letters = true

/-- A message of the method is not offered by the file. The request is looked for first. -/
inductive FileDescriptor.LacksPayload (file : FileDescriptor) (method : MethodDescriptor) :
    Error → Prop
  | request : ¬file.Offers "Request" method.inputType →
      LacksPayload file method (.payloadMissing .request method.name method.inputType)
  | response : file.Offers "Request" method.inputType →
      ¬file.Offers "Response" method.outputType →
      LacksPayload file method (.payloadMissing .response method.name method.outputType)

theorem FileDescriptor.exists_lacksPayload_iff (file : FileDescriptor) (method : MethodDescriptor) :
    (∃ error, file.LacksPayload method error) ↔
      ¬file.Offers "Request" method.inputType ∨ ¬file.Offers "Response" method.outputType := by
  constructor
  · rintro ⟨error, missing | ⟨_, missing⟩⟩
    · exact .inl missing
    · exact .inr missing
  · intro missing
    by_cases offered : file.Offers "Request" method.inputType
    · exact ⟨_, .response offered (missing.resolve_left (not_not_intro offered))⟩
    · exact ⟨_, .request offered⟩

theorem MessageDescriptor.not_ends_response {message : MessageDescriptor}
    (request : message.ends "Request" = true) : message.ends "Response" = false := by
  rw [Bool.eq_false_iff]
  intro response
  rw [ends, Text.endsWith, List.isSuffixOf_iff_suffix] at request response
  have nested : "Request".toList <:+ "Response".toList :=
    List.suffix_of_suffix_length_le request response (by decide)
  exact absurd nested (by decide)

theorem Role.ofName_eq_response_iff (message : MessageDescriptor) :
    ofName message.name = response ↔ message.ends "Response" = true := by
  rw [ofName_eq_response, Bool.and_eq_true, Bool.not_eq_true']
  refine ⟨And.right, fun response => ⟨?_, response⟩⟩
  by_contra request
  rw [Bool.not_eq_false] at request
  exact absurd response (by simp [message.not_ends_response request])

namespace ConversionTable

variable {table : ConversionTable} {field : FieldDescriptor} {error : Error}

theorem elementType_error_kind {type : FieldType}
    (failed : table.elementType type field = .error error) : error.kind = .typeResolution := by
  have scalar : ∀ type, table.scalarType type field.name = .error error →
      error.kind = .typeResolution := by
    intro type missing
    unfold scalarType at missing
    split at missing
    · simp at missing
    · rw [← Except.error.inj missing]
      rfl
  unfold elementType at failed
  split at failed
  · simp at failed
  · simp at failed
  · rw [← Except.error.inj failed]
    rfl
  · exact scalar _ failed

theorem resolve_error_kind (failed : table.resolve field = .error error) :
    error.kind = .typeResolution := by
  unfold resolve at failed
  split at failed
  next type known =>
    rcases bind_eq_error.mp failed with unresolved | ⟨element, resolved, unwrapped⟩
    · exact elementType_error_kind unresolved
    · simp only [pure, Except.pure] at unwrapped
      split at unwrapped
      · split at unwrapped
        · simp at unwrapped
        · rw [← Except.error.inj unwrapped]
          rfl
      · simp at unwrapped
  next =>
    rw [← Except.error.inj failed]
    rfl

end ConversionTable

namespace Assembly

variable (assembly : Assembly)

theorem field_eq_error (message : Nat) (scope : String) (index : Nat) (descriptor : FieldDescriptor)
    (error : Error) :
    assembly.field message scope index descriptor = .error error ↔
      assembly.settings.conversions.resolve descriptor = .error error := by
  simp only [Assembly.field, bind_eq_error, pure, Except.pure, reduceCtorEq, and_false,
    exists_false, or_false]

theorem struct_eq_error (index : Nat) (descriptor : MessageDescriptor) (error : Error) :
    assembly.struct index descriptor = .error error ↔
      FailsFirst (fun field error => assembly.settings.conversions.resolve field = .error error)
        descriptor.fields error := by
  simp only [Assembly.struct, bind_eq_error, pure, Except.pure, reduceCtorEq, and_false,
    exists_false, or_false]
  exact tryMapFrom_failsFirst (assembly.field_eq_error _ _) 0 descriptor.fields error

theorem structs_eq_error (messages : List MessageDescriptor) (error : Error) :
    tryMapIndexed assembly.struct messages = .error error ↔
      FailsFirst (fun field error => assembly.settings.conversions.resolve field = .error error)
        (messages.flatMap (·.fields)) error := by
  rw [failsFirst_flatMap]
  exact tryMapFrom_failsFirst assembly.struct_eq_error 0 messages error

theorem structs_succeed_iff (messages : List MessageDescriptor) :
    (∃ all, tryMapIndexed assembly.struct messages = .ok all) ↔
      ∀ message ∈ messages, ∀ field ∈ message.fields,
        ∃ type, assembly.settings.conversions.resolve field = .ok type := by
  have fieldResolves : ∀ field, (∃ type, assembly.settings.conversions.resolve field = .ok type) ↔
      ¬∃ error, assembly.settings.conversions.resolve field = .error error := by
    intro field
    cases assembly.settings.conversions.resolve field <;> simp
  have builds : (∃ all, tryMapIndexed assembly.struct messages = .ok all) ↔
      ¬∃ error, tryMapIndexed assembly.struct messages = .error error := by
    cases tryMapIndexed assembly.struct messages <;> simp
  rw [builds]
  simp only [structs_eq_error, exists_failsFirst_flatMap_iff, fieldResolves]
  push Not
  rfl

theorem payload_eq_error (candidates : List Struct) (kind : Payload) (method type : String)
    (error : Error) :
    payload candidates kind method type = .error error ↔
      (∀ candidate ∈ candidates, candidate.name.raw ≠ shortName type) ∧
        error = .payloadMissing kind method type := by
  unfold payload
  cases found : candidates.findFinIdx? fun struct => struct.name.raw == shortName type with
  | none =>
      have unmatched : ∀ candidate ∈ candidates, candidate.name.raw ≠ shortName type := by
        simpa using List.findFinIdx?_eq_none_iff.mp found
      simp only [Except.error.injEq, @eq_comm _ error, iff_and_self]
      exact fun _ => unmatched
  | some position =>
      have named := (List.findFinIdx?_eq_some_iff.mp found).1
      simp only [reduceCtorEq, false_iff, not_and]
      intro unmatched
      exact absurd (by simpa using named) (unmatched _ (List.get_mem candidates position))

variable {assembly}

theorem exists_candidate_iff {messages : List MessageDescriptor} {all : List Struct}
    (built : tryMapIndexed assembly.struct messages = .ok all) (role : Role) (type : String) :
    (∃ struct ∈ all.filter (·.role == role), struct.name.raw = shortName type) ↔
      ∃ message ∈ messages, IsLastPart type message.name ∧ Role.ofName message.name = role := by
  have structSide : (∃ struct ∈ all.filter (·.role == role), struct.name.raw = shortName type) ↔
      (role, shortName type) ∈ all.map fun struct => (struct.role, struct.name.raw) := by
    simp [and_assoc]
  have messageSide : (∃ message ∈ messages, IsLastPart type message.name ∧
      Role.ofName message.name = role) ↔
        (role, shortName type) ∈ messages.map fun message =>
          (Role.ofName message.name, message.name) := by
    simp [isLastPart_iff, and_comm]
  rw [structSide, messageSide, structs_map built]

theorem payload_eq_error_iff_offers {file : FileDescriptor} {all : List Struct}
    (built : tryMapIndexed assembly.struct file.messages = .ok all) {role : Role} {letters : String}
    (decides : ∀ message : MessageDescriptor,
      Role.ofName message.name = role ↔ message.ends letters = true)
    (kind : Payload) (method type : String) (error : Error) :
    payload (all.filter (·.role == role)) kind method type = .error error ↔
      ¬file.Offers letters type ∧ error = .payloadMissing kind method type := by
  have offers := exists_candidate_iff built role type
  simp only [decides] at offers
  rw [payload_eq_error, FileDescriptor.Offers, ← offers]
  push Not
  rfl

theorem payload_succeeds_iff_offers {file : FileDescriptor} {all : List Struct}
    (built : tryMapIndexed assembly.struct file.messages = .ok all) {role : Role} {letters : String}
    (decides : ∀ message : MessageDescriptor,
      Role.ofName message.name = role ↔ message.ends letters = true)
    (kind : Payload) (method type : String) :
    (∃ position, payload (all.filter (·.role == role)) kind method type = .ok position) ↔
      file.Offers letters type := by
  have missing := payload_eq_error_iff_offers built decides kind method type
  cases found : payload (all.filter (·.role == role)) kind method type with
  | ok position =>
      simp only [Except.ok.injEq, exists_eq', true_iff]
      by_contra absent
      simpa [found] using (missing _).mpr ⟨absent, rfl⟩
  | error error => simpa using ((missing error).mp found).1

theorem method_eq_error {file : FileDescriptor} {all : List Struct}
    (built : tryMapIndexed assembly.struct file.messages = .ok all) (service : Nat) (scope : String)
    (index : Nat) (descriptor : MethodDescriptor) (error : Error) :
    assembly.method (all.filter (·.role == .request)) (all.filter (·.role == .response)) service
        scope index descriptor = .error error ↔
      file.LacksPayload descriptor error := by
  simp only [Assembly.method, bind_eq_error, pure, Except.pure, reduceCtorEq, and_false,
    exists_false, or_false, exists_and_right,
    payload_succeeds_iff_offers built Role.ofName_eq_request,
    payload_eq_error_iff_offers built Role.ofName_eq_request,
    payload_eq_error_iff_offers built Role.ofName_eq_response_iff]
  constructor
  · rintro (⟨missing, rfl⟩ | ⟨offered, missing, rfl⟩)
    · exact .request missing
    · exact .response offered missing
  · rintro (missing | ⟨offered, missing⟩)
    · exact .inl ⟨missing, rfl⟩
    · exact .inr ⟨offered, missing, rfl⟩

theorem methods_eq_error {file : FileDescriptor} {all : List Struct}
    (built : tryMapIndexed assembly.struct file.messages = .ok all) (error : Error) :
    tryMapIndexed (assembly.serviceMethods (all.filter (·.role == .request))
        (all.filter (·.role == .response))) file.services = .error error ↔
      FailsFirst file.LacksPayload (file.services.flatMap (·.methods)) error := by
  rw [failsFirst_flatMap]
  refine tryMapFrom_failsFirst (fun index service error => ?_) 0 file.services error
  exact tryMapFrom_failsFirst (method_eq_error built _ _) 0 service.methods error

end Assembly

theorem tryMapFrom_map {α β γ ε : Type} (f : Nat → β → Except ε γ) (g : α → β) (start : Nat)
    (elements : List α) :
    tryMapFrom f start (elements.map g) =
      tryMapFrom (fun index element => f index (g element)) start elements := by
  induction elements generalizing start with
  | nil => rfl
  | cons element rest ih => rw [List.map_cons, tryMapFrom, tryMapFrom, ih]

namespace FileModel

variable (file : FileDescriptor) (presentation : Presentation) (settings : Settings)
variable (options : OptionLookup)

theorem build_eq_error (error : Error) :
    build file presentation settings options = .error error ↔
      FailsFirst (fun field error => settings.conversions.resolve field = .error error)
          (file.messages.flatMap (·.fields)) error ∨
        (∀ message ∈ file.messages, ∀ field ∈ message.fields,
            ∃ type, settings.conversions.resolve field = .ok type) ∧
          FailsFirst file.LacksPayload (file.services.flatMap (·.methods)) error := by
  have resolves :=
    (Assembly.ofFile file presentation settings options).structs_succeed_iff file.messages
  simp only [build, bind_eq_error, pure, Except.pure, reduceCtorEq, and_false, exists_false,
    or_false, Assembly.structs_eq_error]
  refine or_congr Iff.rfl ⟨?_, ?_⟩
  · rintro ⟨all, built, failed⟩
    exact ⟨resolves.mp ⟨all, built⟩, (Assembly.methods_eq_error built error).mp failed⟩
  · rintro ⟨resolved, failed⟩
    obtain ⟨all, built⟩ := resolves.mpr resolved
    exact ⟨all, built, (Assembly.methods_eq_error built error).mpr failed⟩

theorem build_fails_iff :
    (∃ error, build file presentation settings options = .error error) ↔
      (∃ message ∈ file.messages, ∃ field ∈ message.fields,
          ∃ error, settings.conversions.resolve field = .error error) ∨
        ∃ service ∈ file.services, ∃ method ∈ service.methods,
          ¬file.Offers "Request" method.inputType ∨ ¬file.Offers "Response" method.outputType := by
  simp only [build_eq_error, exists_or, exists_and_left, exists_failsFirst_flatMap_iff,
    file.exists_lacksPayload_iff]
  by_cases failed : ∃ message ∈ file.messages, ∃ field ∈ message.fields,
      ∃ error, settings.conversions.resolve field = .error error
  · simp only [failed, true_or]
  · have resolved : ∀ message ∈ file.messages, ∀ field ∈ message.fields,
        ∃ type, settings.conversions.resolve field = .ok type := by
      intro message member field among
      cases outcome : settings.conversions.resolve field with
      | ok type => exact ⟨type, rfl⟩
      | error error => exact absurd ⟨message, member, field, among, error, outcome⟩ failed
    simp only [failed, false_or, and_iff_right resolved]

theorem build_withNested (nested : MessageDescriptor → List MessageDescriptor) :
    build { file with messages := file.messages.map fun message =>
        { message with messages := nested message } } presentation settings options =
      build file presentation settings options := by
  have same : tryMapIndexed (Assembly.ofFile file presentation settings options).struct
      (file.messages.map fun message => { message with messages := nested message }) =
        tryMapIndexed (Assembly.ofFile file presentation settings options).struct file.messages :=
    tryMapFrom_map _ _ 0 file.messages
  simp only [build, Assembly.ofFile] at same ⊢
  rw [same]

/-- A file has no model exactly when one of its fields has no type or one of its methods no message,
and the first of these, fields before methods, is what the error is about. -/
theorem build_failure :
    ((∃ error, build file presentation settings options = .error error) ↔
      (∃ message ∈ file.messages, ∃ field ∈ message.fields,
          ∃ error, settings.conversions.resolve field = .error error) ∨
        ∃ service ∈ file.services, ∃ method ∈ service.methods,
          ¬file.Offers "Request" method.inputType ∨ ¬file.Offers "Response" method.outputType) ∧
    (∀ error, build file presentation settings options = .error error ↔
      FailsFirst (fun field error => settings.conversions.resolve field = .error error)
          (file.messages.flatMap (·.fields)) error ∧ error.kind = .typeResolution ∨
        (∀ message ∈ file.messages, ∀ field ∈ message.fields,
            ∃ type, settings.conversions.resolve field = .ok type) ∧
          FailsFirst file.LacksPayload (file.services.flatMap (·.methods)) error ∧
            error.kind = .lookup) ∧
    (∀ message : MessageDescriptor,
      ¬(message.ends "Request" = true ∧ message.ends "Response" = true)) ∧
    ∀ nested : MessageDescriptor → List MessageDescriptor,
      build { file with messages := file.messages.map fun message =>
          { message with messages := nested message } } presentation settings options =
        build file presentation settings options := by
  refine ⟨build_fails_iff file presentation settings options, ?_, ?_,
    build_withNested file presentation settings options⟩
  · intro error
    rw [build_eq_error]
    refine or_congr ⟨fun failed => ⟨failed, ?_⟩, And.left⟩
      (and_congr_right fun _ => ⟨fun failed => ⟨failed, ?_⟩, And.left⟩)
    · obtain ⟨before, field, after, _, _, unresolved⟩ := failed
      exact ConversionTable.resolve_error_kind unresolved
    · obtain ⟨before, method, after, _, _, missing | ⟨_, missing⟩⟩ := failed
      · rfl
      · rfl
  · rintro message ⟨request, response⟩
    exact absurd response (by simp [message.not_ends_response request])

end FileModel
end BindingPress
