import BindingPress.Proofs.Correspondence

/-!
Which fields carry the outcome of a call, and what follows from that at every level of the model.
Fields, structs, the file, its methods and their views each keep a mark of their own; all of them
say the same about the declarations.
-/

namespace BindingPress

/-- The field refers to a message, and the last part of the name it refers to ends in `Result`. -/
def FieldDescriptor.CarriesOutcome (field : FieldDescriptor) : Prop :=
  field.fieldType? = some .message ∧
    ∃ part, IsLastPart (field.typeName.getD "") part ∧ "Result".toList <:+ part.toList

def MessageDescriptor.CarriesOutcome (message : MessageDescriptor) : Prop :=
  ∃ field ∈ message.fields, field.CarriesOutcome

def MessageDescriptor.CarriesValue (message : MessageDescriptor) : Prop :=
  ∃ field ∈ message.fields, ¬field.CarriesOutcome

theorem exists_mem_iff_of_forall₂ {α β : Type} {related : α → β → Prop} {p : α → Prop}
    {q : β → Prop} (agree : ∀ x y, related x y → (p x ↔ q y)) {xs : List α} {ys : List β}
    (paired : List.Forall₂ related xs ys) : (∃ x ∈ xs, p x) ↔ ∃ y ∈ ys, q y := by
  induction paired with
  | nil => simp
  | cons first _ ih => simp only [List.exists_mem_cons_iff, agree _ _ first, ih]

theorem ConversionTable.isResultReference_iff (type : FieldType) (field : FieldDescriptor) :
    isResultReference type field = true ↔
      type = .message ∧
        ∃ part, IsLastPart (field.typeName.getD "") part ∧ "Result".toList <:+ part.toList := by
  simp only [isResultReference, Bool.and_eq_true, decide_eq_true_eq, Text.endsWith,
    List.isSuffixOf_iff_suffix, isLastPart_iff, exists_eq_left]

theorem ConversionTable.resolve_isResult {table : ConversionTable} {field : FieldDescriptor}
    {info : TypeInfo} (resolved : table.resolve field = .ok info) :
    info.isResult = true ↔ field.CarriesOutcome := by
  unfold resolve at resolved
  split at resolved
  next type known =>
    have result : info.isResult = isResultReference type field := by
      obtain ⟨element, _, wrapped⟩ := bind_eq_ok.mp resolved
      simp only [pure, Except.pure] at wrapped
      split at wrapped
      · split at wrapped
        · rw [← Except.ok.inj wrapped]
        · simp at wrapped
      · rw [← Except.ok.inj wrapped]
    rw [result, isResultReference_iff, FieldDescriptor.CarriesOutcome, known, Option.some.injEq]
  next => simp at resolved

namespace Assembly

variable {assembly : Assembly} {index : Nat} {message : MessageDescriptor} {struct : Struct}

theorem struct_isResult (built : assembly.struct index message = .ok struct) :
    List.Forall₂ (fun descriptor field => field.typeInfo.isResult = true ↔ descriptor.CarriesOutcome)
      message.fields struct.fields :=
  (assembly.struct_matches built).fields.imp fun _ _ matched =>
    ConversionTable.resolve_isResult matched.type

theorem struct_hasResult (built : assembly.struct index message = .ok struct) :
    struct.hasResult = true ↔ message.CarriesOutcome := by
  have fields := struct_isResult built
  obtain ⟨_, _, rfl⟩ := (assembly.struct_eq_ok _ _ _).mp built
  rw [List.any_eq_true]
  exact (exists_mem_iff_of_forall₂ (fun _ _ agree => agree.symm) fields).symm

theorem structs_hasResult {messages : List MessageDescriptor} {all : List Struct}
    (built : tryMapIndexed assembly.struct messages = .ok all) :
    all.any (·.hasResult) = true ↔ ∃ message ∈ messages, message.CarriesOutcome := by
  have paired : List.Forall₂ (fun message struct =>
      message.CarriesOutcome ↔ struct.hasResult = true) messages all := by
    refine tryMapFrom_related (fun index message struct made => ?_) built
    exact (struct_hasResult made).symm
  rw [List.any_eq_true]
  exact (exists_mem_iff_of_forall₂ (fun _ _ agree => agree) paired).symm

theorem struct_returnField? (built : assembly.struct index message = .ok struct) :
    struct.returnField?.isSome = true ↔ message.CarriesValue := by
  rw [Struct.returnField?, List.find?_isSome]
  refine (exists_mem_iff_of_forall₂ (fun descriptor field agree => ?_) (struct_isResult built)).symm
  rw [Bool.not_eq_true', ← Bool.not_eq_true, agree]

theorem methodKind_eq (descriptor : MethodDescriptor) (response : Struct) :
    methodKind (Shape.ofFlags descriptor.clientStreaming descriptor.serverStreaming) response =
      if descriptor.serverStreaming then .stream
      else if response.returnField?.isSome then .request
      else .call := by
  rw [methodKind]
  cases descriptor.clientStreaming <;> cases descriptor.serverStreaming <;> rfl

theorem methodKind_iff (built : assembly.struct index message = .ok struct)
    (descriptor : MethodDescriptor) :
    (methodKind (Shape.ofFlags descriptor.clientStreaming descriptor.serverStreaming) struct =
        .stream ↔ descriptor.serverStreaming = true) ∧
    (methodKind (Shape.ofFlags descriptor.clientStreaming descriptor.serverStreaming) struct =
        .request ↔ descriptor.serverStreaming = false ∧ message.CarriesValue) ∧
    (methodKind (Shape.ofFlags descriptor.clientStreaming descriptor.serverStreaming) struct =
        .call ↔ descriptor.serverStreaming = false ∧
          ∀ field ∈ message.fields, field.CarriesOutcome) := by
  have outcomes : (∀ field ∈ message.fields, field.CarriesOutcome) ↔ ¬message.CarriesValue := by
    simp [MessageDescriptor.CarriesValue]
  rw [methodKind_eq, outcomes, ← struct_returnField? built]
  cases descriptor.serverStreaming <;> cases struct.returnField?.isSome <;> simp

end Assembly

namespace FileModel

def structsOf (model : FileModel) : Role → List Struct
  | .plain => model.structs
  | .request => model.requests
  | .response => model.responses

structure MarksMethod (file : FileDescriptor) (model : FileModel) (descriptor : MethodDescriptor)
    (method : Method model.requests.length model.responses.length) (answer : MessageDescriptor) :
    Prop where
  answers : ((file.messagesOf .response).map Prod.fst)[method.response.val]? = some answer
  hasResult : method.hasResult = (model.responseOf method).hasResult
  stream : method.kind = .stream ↔ descriptor.serverStreaming = true
  request : method.kind = .request ↔ descriptor.serverStreaming = false ∧ answer.CarriesValue
  call : method.kind = .call ↔
    descriptor.serverStreaming = false ∧ ∀ field ∈ answer.fields, field.CarriesOutcome

structure MarksView (descriptor : MethodDescriptor) (view : MethodView) : Prop where
  returnField : descriptor.serverStreaming = false →
    (view.returnField.isSome = true ↔ view.kind = .request)
  call : view.kind = .call → ∀ field ∈ view.response.fields, field.typeInfo.isResult = true

variable {file : FileDescriptor} {presentation : Presentation} {settings : Settings}
variable {options : OptionLookup} {model : FileModel}

theorem build_structsOf (built : build file presentation settings options = .ok model)
    (role : Role) :
    List.Forall₂ (fun entry struct =>
        (Assembly.ofFile file presentation settings options).struct entry.2 entry.1 = .ok struct)
      (file.messagesOf role) (model.structsOf role) := by
  obtain ⟨all, methods, builtStructs, _, rfl⟩ := build_eq_ok.mp built
  have made := (Assembly.structs_ofRole _ builtStructs role).imp fun _ _ => And.right
  cases role <;> exact made

theorem build_methodKind (built : build file presentation settings options = .ok model) :
    List.Forall₂ (fun descriptor method =>
        method.kind = Assembly.methodKind
            (Shape.ofFlags descriptor.clientStreaming descriptor.serverStreaming)
            (model.responseOf method) ∧
          method.hasResult = (model.responseOf method).hasResult)
      (file.services.flatMap (·.methods)) model.methods := by
  obtain ⟨all, methods, _, builtMethods, rfl⟩ := build_eq_ok.mp built
  rw [← file.declaredMethods_map, List.forall₂_map_left_iff]
  refine (Assembly.serviceMethods_flatten _ _ _ file builtMethods).imp fun entry method made => ?_
  obtain ⟨request, response, _, _, rfl⟩ := (Assembly.method_eq_ok _ _ _ _ _ _ _ _).mp made
  exact ⟨rfl, rfl⟩

theorem build_answer (built : build file presentation settings options = .ok model)
    (method : Method model.requests.length model.responses.length) :
    ∃ answer position,
      (file.messagesOf .response)[method.response.val]? = some (answer, position) ∧
      (Assembly.ofFile file presentation settings options).struct position answer =
        .ok (model.responseOf method) := by
  have made := build_structsOf built .response
  have within : method.response.val < (file.messagesOf .response).length := by
    rw [made.length_eq]
    exact method.response.isLt
  exact ⟨_, _, List.getElem?_eq_getElem within, made.get within method.response.isLt⟩

theorem methodView_marks (model : FileModel) {descriptor : MethodDescriptor}
    {method : Method model.requests.length model.responses.length}
    (kind : method.kind = Assembly.methodKind
      (Shape.ofFlags descriptor.clientStreaming descriptor.serverStreaming)
      (model.responseOf method)) :
    MarksView descriptor (model.methodView method) := by
  rw [Assembly.methodKind_eq] at kind
  constructor
  · intro single
    change (model.responseOf method).returnField?.isSome = true ↔ method.kind = .request
    rw [kind, single]
    cases (model.responseOf method).returnField?.isSome <;> simp
  · intro called field member
    have absent : (model.responseOf method).returnField? = none := by
      rw [show method.kind = .call from called] at kind
      cases returned : (model.responseOf method).returnField? with
      | none => rfl
      | some value => cases streams : descriptor.serverStreaming <;> simp [returned, streams] at kind
    have value := List.find?_eq_none.mp absent field member
    simpa using value

/-- The marks of structs, file, methods and views all follow from which fields of the file's
messages carry the outcome of a call, and which methods keep answering. -/
theorem build_outcomes (built : build file presentation settings options = .ok model) :
    (∀ role, List.Forall₂ (fun entry struct => struct.hasResult = true ↔ entry.1.CarriesOutcome)
      (file.messagesOf role) (model.structsOf role)) ∧
    (model.hasResult = true ↔ ∃ message ∈ file.messages, message.CarriesOutcome) ∧
    List.Forall₂ (fun descriptor method => ∃ answer, MarksMethod file model descriptor method answer)
      (file.services.flatMap (·.methods)) model.methods ∧
    List.Forall₂ MarksView (file.services.flatMap (·.methods)) model.renderContext.methods := by
  refine ⟨fun role => ?_, ?_, ?_, ?_⟩
  · exact (build_structsOf built role).imp fun _ _ made => Assembly.struct_hasResult made
  · obtain ⟨all, methods, builtStructs, _, rfl⟩ := build_eq_ok.mp built
    exact Assembly.structs_hasResult builtStructs
  · refine (build_methodKind built).imp fun descriptor method marked => ?_
    obtain ⟨answer, position, found, made⟩ := build_answer built method
    obtain ⟨kind, hasResult⟩ := marked
    obtain ⟨stream, request, call⟩ := Assembly.methodKind_iff made descriptor
    rw [← kind] at stream request call
    exact ⟨answer, by simp [found], hasResult, stream, request, call⟩
  · rw [renderContext, List.forall₂_map_right_iff]
    refine (build_methodKind built).imp fun descriptor method marked => ?_
    exact model.methodView_marks marked.1

def telemetryFile : FileDescriptor where
  name := "telemetry/telemetry.proto"
  package := "mavsdk.rpc.telemetry"
  messages := [
    { name := "TelemetryResult"
      fields := [{ name := "result", type := some 14, typeName := some ".TelemetryResult.Result" }]
      enums := [{ name := "Result", values := [{ name := "RESULT_OK" }] }] },
    { name := "RateRequest" },
    { name := "SetRateResponse"
      fields := [{ name := "outcome", type := some 11, typeName := some ".mavsdk.TelemetryResult" }] },
    { name := "LastResponse"
      fields := [{ name := "last", type := some 14, typeName := some ".TelemetryResult.Result" }] }]
  services := [
    { name := "TelemetryService"
      methods := [
        { name := "SetRate", inputType := "RateRequest", outputType := "SetRateResponse" },
        { name := "Last", inputType := "RateRequest", outputType := "LastResponse"
          clientStreaming := true },
        { name := "Follow", inputType := "RateRequest", outputType := "LastResponse"
          serverStreaming := true }] }]

theorem telemetryFile_outcomes :
    ∃ model, build telemetryFile ⟨"mavsdk.rpc.telemetry", "Telemetry"⟩ {} {} = .ok model ∧
      model.methods.map (fun method => (method.kind, method.hasResult)) =
        [(.call, true), (.request, false), (.stream, false)] ∧
      (∀ role, List.Forall₂ (fun entry struct =>
          struct.hasResult = true ↔ entry.1.CarriesOutcome)
        (telemetryFile.messagesOf role) (model.structsOf role)) ∧
      (model.hasResult = true ↔ ∃ message ∈ telemetryFile.messages, message.CarriesOutcome) ∧
      List.Forall₂ (fun descriptor method =>
          ∃ answer, MarksMethod telemetryFile model descriptor method answer)
        (telemetryFile.services.flatMap (·.methods)) model.methods ∧
      List.Forall₂ MarksView (telemetryFile.services.flatMap (·.methods))
        model.renderContext.methods := by
  have builds : ∃ model, build telemetryFile ⟨"mavsdk.rpc.telemetry", "Telemetry"⟩ {} {} =
      .ok model ∧ model.methods.map (fun method => (method.kind, method.hasResult)) =
        [(.call, true), (.request, false), (.stream, false)] :=
    ⟨_, rfl, rfl⟩
  obtain ⟨model, built, kinds⟩ := builds
  exact ⟨model, built, kinds, build_outcomes built⟩

end FileModel
end BindingPress
