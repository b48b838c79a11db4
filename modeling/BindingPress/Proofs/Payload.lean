import BindingPress.Proofs.Assembly
import BindingPress.Proofs.Parts

/-!
The messages that a method exchanges. Positions among requests and responses are taken before the
model exists that they point into; they lead to the first message of the right role and name.
-/

namespace BindingPress

/-- Among the candidates, `position` leads to the struct of the first message that plays the role
and is named by the last part of the type. -/
structure Denotes (assembly : Assembly) (messages : List MessageDescriptor) (role : Role)
    (type : String) (candidates : List Struct) (position : Nat) (struct : Struct) : Prop where
  valid : candidates[position]? = some struct
  plays : struct.role = role
  named : IsLastPart type struct.name.raw
  first : ∃ before message after, messages = before ++ message :: after ∧
    assembly.struct before.length message = .ok struct ∧
    (∀ earlier ∈ before, Role.ofName earlier.name = role → ¬IsLastPart type earlier.name) ∧
    position = (before.filter fun earlier => Role.ofName earlier.name == role).length

def IsReturnField (fields : List Field) : Option Field → Prop
  | none => ∀ field ∈ fields, field.typeInfo.isResult = true
  | some field => ∃ before after, fields = before ++ field :: after ∧
      field.typeInfo.isResult = false ∧ ∀ earlier ∈ before, earlier.typeInfo.isResult = true

theorem returnField?_isReturnField (struct : Struct) :
    IsReturnField struct.fields struct.returnField? := by
  cases found : struct.returnField? with
  | none => simpa [Struct.returnField?, IsReturnField] using found
  | some field =>
      rw [Struct.returnField?, List.find?_eq_some_iff_append] at found
      obtain ⟨value, before, after, split, results⟩ := found
      exact ⟨before, after, split, by simpa using value, by simpa using results⟩

namespace Assembly

variable {assembly : Assembly} {messages : List MessageDescriptor} {all : List Struct}

theorem structs_map (built : tryMapIndexed assembly.struct messages = .ok all) :
    all.map (fun struct => (struct.role, struct.name.raw)) =
      messages.map fun message => (Role.ofName message.name, message.name) := by
  have paired : List.Forall₂ (fun message struct =>
      (struct.role, struct.name.raw) = (Role.ofName message.name, message.name)) messages all := by
    refine tryMapFrom_related (fun index message struct made => ?_) built
    rw [assembly.struct_role made, assembly.struct_name made]
    rfl
  clear built
  induction paired with
  | nil => rfl
  | cons same _ ih => rw [List.map_cons, List.map_cons, same, ih]

theorem structs_countRole (built : tryMapIndexed assembly.struct messages = .ok all)
    (role : Role) :
    (messages.filter fun message => Role.ofName message.name == role).length =
      (all.filter (·.role == role)).length := by
  have same := congrArg (fun pairs => (pairs.filter (·.1 == role)).length) (structs_map built)
  simp only [List.filter_map, List.length_map] at same
  exact same.symm

theorem payload_denotes (built : tryMapIndexed assembly.struct messages = .ok all) {role : Role}
    {kind : Payload} {method type : String}
    {position : Fin (all.filter (·.role == role)).length}
    (found : payload (all.filter (·.role == role)) kind method type = .ok position) :
    Denotes assembly messages role type (all.filter (·.role == role)) position
      ((all.filter (·.role == role)).get position) := by
  obtain ⟨named, unmatched⟩ := (payload_eq_ok _ _ _ _ _).mp found
  have member := List.mem_filter.mp (List.get_mem (all.filter (·.role == role)) position)
  have split : all.filter (·.role == role) =
      (all.filter (·.role == role)).take position ++
        (all.filter (·.role == role)).get position ::
          (all.filter (·.role == role)).drop (position + 1) := by
    simp
  obtain ⟨front, back, allSplit, frontKept, backKept⟩ := List.filter_eq_append_iff.mp split
  obtain ⟨passed, rest, backSplit, skipped, plays, restKept⟩ := List.filter_eq_cons_iff.mp backKept
  rw [allSplit, backSplit, ← List.append_assoc] at built
  obtain ⟨before, message, after, messagesSplit, earlierBuilt, made⟩ := tryMapFrom_eq_append built
  rw [Nat.zero_add] at made
  refine ⟨by simp, by simpa using member.2, isLastPart_iff.mpr named, before, message, after,
    messagesSplit, made, ?_, ?_⟩
  · intro earlier earlierMember playsRole
    have pair : (role, earlier.name) ∈ (front ++ passed).map
        (fun struct => (struct.role, struct.name.raw)) := by
      rw [structs_map earlierBuilt, List.mem_map]
      exact ⟨earlier, earlierMember, by rw [playsRole]⟩
    obtain ⟨struct, structMember, same⟩ := List.mem_map.mp pair
    obtain ⟨roleSame, nameSame⟩ := Prod.mk.inj same
    rw [isLastPart_iff, ← nameSame]
    rcases List.mem_append.mp structMember with inFront | inPassed
    · apply unmatched struct
      rw [← frontKept]
      exact List.mem_filter.mpr ⟨inFront, by simp [roleSame]⟩
    · exact absurd (by simp [roleSame]) (skipped struct inPassed)
  · have noneKept : passed.filter (·.role == role) = [] := List.filter_eq_nil_iff.mpr skipped
    rw [structs_countRole earlierBuilt role, List.filter_append, noneKept, List.append_nil,
      frontKept, List.length_take]
    omega

end Assembly

namespace FileModel

variable {file : FileDescriptor} {presentation : Presentation} {settings : Settings}
variable {options : OptionLookup} {model : FileModel}

/-- Every method leads to the first messages that fit its types, and its view shows their structs
and the field that it returns. -/
theorem build_payloads (built : build file presentation settings options = .ok model) :
    List.Forall₂ (fun descriptor method =>
        Denotes (Assembly.ofFile file presentation settings options) file.messages .request
          descriptor.inputType model.requests method.request (model.requestOf method) ∧
        Denotes (Assembly.ofFile file presentation settings options) file.messages .response
          descriptor.outputType model.responses method.response (model.responseOf method))
      (file.services.flatMap (·.methods)) model.methods ∧
    List.Forall₂ (fun method view =>
        view.request = model.requestOf method ∧ view.response = model.responseOf method ∧
          IsReturnField view.response.fields view.returnField)
      model.methods model.renderContext.methods := by
  constructor
  · obtain ⟨all, methods, builtStructs, builtMethods, rfl⟩ := build_eq_ok.mp built
    rw [← file.declaredMethods_map, List.forall₂_map_left_iff]
    have each := Assembly.serviceMethods_flatten _ _ _ file builtMethods
    refine each.imp fun entry method made => ?_
    obtain ⟨request, response, requestFound, responseFound, rfl⟩ :=
      (Assembly.method_eq_ok _ _ _ _ _ _ _ _).mp made
    exact ⟨Assembly.payload_denotes builtStructs requestFound,
      Assembly.payload_denotes builtStructs responseFound⟩
  · rw [renderContext, List.forall₂_map_right_iff, List.forall₂_same]
    intro method member
    exact ⟨rfl, rfl, returnField?_isReturnField _⟩

theorem actionFile_payloads :
    ∃ model, build actionFile ⟨"mavsdk.rpc.action", "Action"⟩ {} {} = .ok model ∧
      List.Forall₂ (fun descriptor method =>
          Denotes (Assembly.ofFile actionFile ⟨"mavsdk.rpc.action", "Action"⟩ {} {})
            actionFile.messages .request descriptor.inputType model.requests method.request
            (model.requestOf method) ∧
          Denotes (Assembly.ofFile actionFile ⟨"mavsdk.rpc.action", "Action"⟩ {} {})
            actionFile.messages .response descriptor.outputType model.responses method.response
            (model.responseOf method))
        (actionFile.services.flatMap (·.methods)) model.methods ∧
      List.Forall₂ (fun method view =>
          view.request = model.requestOf method ∧ view.response = model.responseOf method ∧
            IsReturnField view.response.fields view.returnField)
        model.methods model.renderContext.methods ∧
      model.methods.map (fun method => (method.request.val, method.response.val)) =
        [(0, 0), (0, 0)] ∧
      model.renderContext.methods.map (fun view => view.returnField.map (·.name.raw)) =
        [some "command", some "command"] := by
  have built : build actionFile ⟨"mavsdk.rpc.action", "Action"⟩ {} {} = .ok _ := rfl
  obtain ⟨denoted, viewed⟩ := build_payloads built
  exact ⟨_, built, denoted, viewed, rfl, rfl⟩

end FileModel
end BindingPress
