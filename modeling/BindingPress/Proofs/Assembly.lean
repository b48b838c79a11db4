import BindingPress.Model.View
import BindingPress.Proofs.Traversal

/-!
What each step of the assembly of a model gives when it succeeds. Later modules use these lemmas and
do not open the steps again.
-/

namespace BindingPress

/-- The methods of a file in the order of declaration, each after the service that declares it;
both come with their positions. -/
def FileDescriptor.declaredMethods (file : FileDescriptor) :
    List ((ServiceDescriptor × Nat) × (MethodDescriptor × Nat)) :=
  file.services.zipIdx.flatMap fun service => service.1.methods.zipIdx.map fun method =>
    (service, method)

theorem FileDescriptor.declaredMethods_map (file : FileDescriptor) :
    file.declaredMethods.map (fun entry => entry.2.1) = file.services.flatMap (·.methods) := by
  have inner : ∀ service : ServiceDescriptor × Nat,
      (service.1.methods.zipIdx.map fun method => (service, method)).map
        (fun entry => entry.2.1) = service.1.methods := by
    intro service
    rw [List.map_map]
    exact List.zipIdx_map_fst 0 service.1.methods
  rw [declaredMethods, List.map_flatMap]
  simp only [inner]
  conv_rhs => rw [← List.zipIdx_map_fst 0 file.services, List.flatMap_map]

theorem FileDescriptor.mem_declaredMethods {file : FileDescriptor}
    {entry : (ServiceDescriptor × Nat) × (MethodDescriptor × Nat)}
    (member : entry ∈ file.declaredMethods) :
    entry.1 ∈ file.services.zipIdx ∧ entry.2 ∈ entry.1.1.methods.zipIdx := by
  obtain ⟨service, among, listed⟩ := List.mem_flatMap.mp member
  obtain ⟨method, within, rfl⟩ := List.mem_map.mp listed
  exact ⟨among, within⟩

def FileDescriptor.messagesOf (file : FileDescriptor) (role : Role) :
    List (MessageDescriptor × Nat) :=
  file.messages.zipIdx.filter fun entry => Role.ofName entry.1.name == role

namespace Assembly

variable (assembly : Assembly)

theorem field_eq_ok (message : Nat) (scope : String) (index : Nat)
    (descriptor : FieldDescriptor) (field : Field) :
    assembly.field message scope index descriptor = .ok field ↔
      ∃ typeInfo, assembly.settings.conversions.resolve descriptor = .ok typeInfo ∧
        field = {
          name := assembly.identifier descriptor.name
          typeInfo
          description := assembly.docs.get (.field message index)
          defaultValue := (assembly.options.field scope descriptor.name).defaultValue
          epsilon := (assembly.options.field scope descriptor.name).epsilon } := by
  simp only [Assembly.field, bind_eq_ok, pure, Except.pure, Except.ok.injEq, @eq_comm _ field]

theorem struct_eq_ok (index : Nat) (descriptor : MessageDescriptor) (struct : Struct) :
    assembly.struct index descriptor = .ok struct ↔
      ∃ fields, tryMapIndexed
          (assembly.field index (qualified assembly.package descriptor.name))
          descriptor.fields = .ok fields ∧
        struct = {
          name := assembly.identifier descriptor.name
          description := assembly.docs.get (.message index)
          role := Role.ofName descriptor.name
          fields
          nestedEnums := descriptor.enums.mapIdx fun j nested =>
            assembly.enum (some (assembly.identifier descriptor.name)) (.nestedEnum index j)
              (.nestedEnumValue index j) nested
          hasResult := fields.any (·.typeInfo.isResult) } := by
  simp only [Assembly.struct, bind_eq_ok, pure, Except.pure, Except.ok.injEq, @eq_comm _ struct]

theorem struct_name {index : Nat} {descriptor : MessageDescriptor} {struct : Struct}
    (built : assembly.struct index descriptor = .ok struct) :
    struct.name = assembly.identifier descriptor.name := by
  obtain ⟨fields, resolved, rfl⟩ := (assembly.struct_eq_ok _ _ _).mp built
  rfl

theorem struct_role {index : Nat} {descriptor : MessageDescriptor} {struct : Struct}
    (built : assembly.struct index descriptor = .ok struct) :
    struct.role = Role.ofName descriptor.name := by
  obtain ⟨fields, resolved, rfl⟩ := (assembly.struct_eq_ok _ _ _).mp built
  rfl

theorem structs_ofRole {file : FileDescriptor} {all : List Struct}
    (built : tryMapIndexed assembly.struct file.messages = .ok all) (role : Role) :
    List.Forall₂ (fun entry struct =>
        entry ∈ file.messages.zipIdx ∧ assembly.struct entry.2 entry.1 = .ok struct)
      (file.messagesOf role) (all.filter (·.role == role)) := by
  rw [tryMapIndexed, tryMapFrom_eq_ok] at built
  have paired := List.forall₂_and_left _ _ |>.mpr ⟨fun _ member => member, built⟩
  have agree : ∀ (entry : MessageDescriptor × Nat) (struct : Struct),
      entry ∈ file.messages.zipIdx ∧ assembly.struct entry.2 entry.1 = .ok struct →
        ((Role.ofName entry.1.name == role) = true ↔ (struct.role == role) = true) := by
    rintro entry struct ⟨_, made⟩
    rw [assembly.struct_role made]
  exact List.rel_filter agree paired

theorem payload_eq_ok (candidates : List Struct) (kind : Payload) (method type : String)
    (position : Fin candidates.length) :
    payload candidates kind method type = .ok position ↔
      (candidates.get position).name.raw = shortName type ∧
        ∀ earlier ∈ candidates.take position, earlier.name.raw ≠ shortName type := by
  have found : payload candidates kind method type = .ok position ↔
      (candidates.findFinIdx? fun struct => struct.name.raw == shortName type) =
        some position := by
    unfold payload
    cases candidates.findFinIdx? fun struct => struct.name.raw == shortName type with
    | none => simp
    | some first => simp
  rw [found, List.findFinIdx?_eq_some_iff]
  constructor
  · rintro ⟨named, unmatched⟩
    refine ⟨by simpa using named, ?_⟩
    intro earlier member
    obtain ⟨index, bound, rfl⟩ := List.mem_take_iff_getElem.mp member
    have below : index < position := by omega
    simpa using unmatched ⟨index, by omega⟩ below
  · rintro ⟨named, unmatched⟩
    refine ⟨by simpa using named, ?_⟩
    intro index below
    have member : candidates[index] ∈ candidates.take position :=
      List.mem_take_iff_getElem.mpr ⟨index, by omega, rfl⟩
    simpa using unmatched _ member

theorem method_eq_ok (requests responses : List Struct) (service : Nat) (scope : String)
    (index : Nat) (descriptor : MethodDescriptor)
    (method : Method requests.length responses.length) :
    assembly.method requests responses service scope index descriptor = .ok method ↔
      ∃ request response,
        payload requests .request descriptor.name descriptor.inputType = .ok request ∧
        payload responses .response descriptor.name descriptor.outputType = .ok response ∧
        method = {
          name := assembly.identifier descriptor.name
          description := assembly.docs.get (.method service index)
          shape := Shape.ofFlags descriptor.clientStreaming descriptor.serverStreaming
          target := assembly.target
          kind := methodKind
            (Shape.ofFlags descriptor.clientStreaming descriptor.serverStreaming)
            (responses.get response)
          options := assembly.options.method scope descriptor.name
          hasResult := (responses.get response).hasResult
          request
          response } := by
  simp only [Assembly.method, bind_eq_ok, pure, Except.pure, Except.ok.injEq]
  constructor
  · rintro ⟨request, requestFound, response, responseFound, rfl⟩
    exact ⟨request, response, requestFound, responseFound, rfl⟩
  · rintro ⟨request, response, requestFound, responseFound, rfl⟩
    exact ⟨request, requestFound, response, responseFound, rfl⟩

theorem serviceMethods_flatten (requests responses : List Struct) (file : FileDescriptor)
    {methods : List (List (Method requests.length responses.length))}
    (built : tryMapIndexed (assembly.serviceMethods requests responses) file.services =
      .ok methods) :
    List.Forall₂ (fun entry method =>
        assembly.method requests responses entry.1.2 (qualified assembly.package entry.1.1.name)
          entry.2.2 entry.2.1 = .ok method)
      file.declaredMethods methods.flatten := by
  rw [tryMapIndexed, tryMapFrom_eq_ok] at built
  rw [FileDescriptor.declaredMethods, List.flatMap_def]
  apply List.rel_flatten
  rw [List.forall₂_map_left_iff]
  refine built.imp fun service found builtService => ?_
  rw [List.forall₂_map_left_iff]
  exact (tryMapFrom_eq_ok _ _ _ _).mp builtService

end Assembly

namespace FileModel

variable {file : FileDescriptor} {presentation : Presentation} {settings : Settings}
variable {options : OptionLookup} {model : FileModel}

theorem build_eq_ok :
    build file presentation settings options = .ok model ↔
      ∃ all methods,
        tryMapIndexed (Assembly.ofFile file presentation settings options).struct file.messages =
          .ok all ∧
        tryMapIndexed ((Assembly.ofFile file presentation settings options).serviceMethods
          (all.filter (·.role == .request)) (all.filter (·.role == .response))) file.services =
            .ok methods ∧
        model = {
          package := Naming.Identifier.parse presentation.package settings.initialisms
          pluginName := Naming.Identifier.parse presentation.pluginName settings.initialisms
          classDescription := (DocIndex.ofLocations file.locations).get (.service 0)
          enums := (Assembly.ofFile file presentation settings options).enums file.enums
          structs := all.filter (·.role == .plain)
          requests := all.filter (·.role == .request)
          responses := all.filter (·.role == .response)
          methods := methods.flatten
          hasResult := all.any (·.hasResult)
          isServer := (Target.ofPluginName presentation.pluginName).isServer } := by
  simp only [build, bind_eq_ok, pure, Except.pure, Except.ok.injEq, @eq_comm _ model]
  constructor
  · rintro ⟨all, builtStructs, methods, builtMethods, same⟩
    exact ⟨all, methods, builtStructs, builtMethods, same⟩
  · rintro ⟨all, methods, builtStructs, builtMethods, same⟩
    exact ⟨all, builtStructs, methods, builtMethods, same⟩

def actionFile : FileDescriptor where
  name := "action/action.proto"
  package := "mavsdk.rpc.action"
  enums := [
    { name := "Mode", values := [{ name := "MODE_OFF" }, { name := "MODE_ON", given := some 4 }] }]
  messages := [
    { name := "Command", enums := [{ name := "Kind", values := [{ name := "KIND_ARM" }] }] },
    { name := "ArmResponse"
      fields := [
        { name := "action_result", type := some 11, typeName := some ".mavsdk.ActionResult" },
        { name := "command", type := some 11, typeName := some ".mavsdk.rpc.action.Command" }] },
    { name := "ArmRequest" },
    { name := "ArmResponse" }]
  services := [
    { name := "ActionService"
      methods := [{ name := "Arm", inputType := ".mavsdk.rpc.action.ArmRequest"
                    outputType := ".mavsdk.rpc.action.ArmResponse" }] },
    { name := "SafetyService"
      methods := [{ name := "Disarm", inputType := "ArmRequest", outputType := "ArmResponse"
                    serverStreaming := true }] }]

theorem actionFile_builds :
    ∃ model, build actionFile ⟨"mavsdk.rpc.action", "Action"⟩ {} {} = .ok model :=
  ⟨_, rfl⟩

end FileModel
end BindingPress
