import BindingPress.Proofs.Assembly
import BindingPress.Proofs.Parts

/-!
The model of a file holds what the file declares, each thing once and in the order of declaration.
Messages are told apart by the ends of their names.
-/

namespace BindingPress

open Naming (Identifier Initialisms)

structure IsNameOf (initialisms : Initialisms) (declared : String) (name : Identifier) : Prop where
  parsed : name = Identifier.parse declared initialisms
  raw : name.raw = declared

structure EnumMatches (initialisms : Initialisms) (parent : Option Identifier)
    (descriptor : EnumDescriptor) (enum : Enum) : Prop where
  name : IsNameOf initialisms descriptor.name enum.name
  parent : enum.parent = parent
  /-- A number that is not given counts as zero. -/
  values : List.Forall₂ (fun entry value =>
      IsNameOf initialisms entry.name value.name ∧ value.number = entry.given.getD 0)
    descriptor.values enum.values

structure FieldMatches (settings : Settings) (descriptor : FieldDescriptor) (field : Field) :
    Prop where
  name : IsNameOf settings.initialisms descriptor.name field.name
  type : settings.conversions.resolve descriptor = .ok field.typeInfo

structure StructMatches (settings : Settings) (role : Role) (message : MessageDescriptor)
    (struct : Struct) : Prop where
  name : IsNameOf settings.initialisms message.name struct.name
  role : struct.role = role
  fields : List.Forall₂ (FieldMatches settings) message.fields struct.fields
  nestedEnums : List.Forall₂
    (EnumMatches settings.initialisms (some (Identifier.parse message.name settings.initialisms)))
    message.enums struct.nestedEnums

structure MethodMatches (settings : Settings) (model : FileModel) (descriptor : MethodDescriptor)
    (method : Method model.requests.length model.responses.length) : Prop where
  name : IsNameOf settings.initialisms descriptor.name method.name
  shape : method.shape = Shape.ofFlags descriptor.clientStreaming descriptor.serverStreaming
  request : IsLastPart descriptor.inputType (model.requestOf method).name.raw
  response : IsLastPart descriptor.outputType (model.responseOf method).name.raw

def MessageDescriptor.ends (message : MessageDescriptor) (letters : String) : Bool :=
  Text.endsWith letters.toList message.name.toList

theorem forall₂_mapIdx {α β : Type} {related : α → β → Prop} {f : Nat → α → β}
    (relates : ∀ index element, related element (f index element)) (elements : List α) :
    List.Forall₂ related elements (elements.mapIdx f) := by
  rw [List.mapIdx_eq_zipIdx_map, List.forall₂_map_right_iff]
  conv => arg 2; rw [← List.zipIdx_map_fst 0 elements]
  rw [List.forall₂_map_left_iff, List.forall₂_same]
  intro entry member
  exact relates entry.2 entry.1

namespace Assembly

variable (assembly : Assembly)

theorem identifier_isNameOf (declared : String) :
    IsNameOf assembly.settings.initialisms declared (assembly.identifier declared) :=
  ⟨rfl, rfl⟩

theorem enum_matches (parent : Option Identifier) (declaration : Declaration)
    (value : Nat → Declaration) (descriptor : EnumDescriptor) :
    EnumMatches assembly.settings.initialisms parent descriptor
      (assembly.enum parent declaration value descriptor) where
  name := assembly.identifier_isNameOf descriptor.name
  parent := rfl
  values := forall₂_mapIdx (fun _ entry => ⟨assembly.identifier_isNameOf entry.name, rfl⟩) _

theorem enums_match (descriptors : List EnumDescriptor) :
    List.Forall₂ (EnumMatches assembly.settings.initialisms none) descriptors
      (assembly.enums descriptors) :=
  forall₂_mapIdx (fun _ descriptor => assembly.enum_matches _ _ _ descriptor) descriptors

theorem fields_match {message : Nat} {scope : String} {descriptors : List FieldDescriptor}
    {fields : List Field}
    (built : tryMapIndexed (assembly.field message scope) descriptors = .ok fields) :
    List.Forall₂ (FieldMatches assembly.settings) descriptors fields := by
  refine tryMapFrom_related (fun index descriptor field made => ?_) built
  obtain ⟨typeInfo, resolved, rfl⟩ := (assembly.field_eq_ok _ _ _ _ _).mp made
  exact ⟨assembly.identifier_isNameOf descriptor.name, resolved⟩

theorem struct_matches {index : Nat} {message : MessageDescriptor} {struct : Struct}
    (built : assembly.struct index message = .ok struct) :
    StructMatches assembly.settings (Role.ofName message.name) message struct := by
  obtain ⟨fields, resolved, rfl⟩ := (assembly.struct_eq_ok _ _ _).mp built
  exact {
    name := assembly.identifier_isNameOf message.name
    role := rfl
    fields := assembly.fields_match resolved
    nestedEnums := forall₂_mapIdx (fun _ nested => assembly.enum_matches _ _ _ nested) _ }

theorem structs_match {messages : List MessageDescriptor} {all : List Struct}
    (built : tryMapIndexed assembly.struct messages = .ok all) :
    List.Forall₂ (fun message struct =>
        StructMatches assembly.settings (Role.ofName message.name) message struct)
      messages all := by
  refine tryMapFrom_related (fun index message struct made => ?_) built
  exact assembly.struct_matches made

end Assembly

theorem StructMatches.filter {settings : Settings} {messages : List MessageDescriptor}
    {all : List Struct}
    (matched : List.Forall₂ (fun message struct =>
        StructMatches settings (Role.ofName message.name) message struct) messages all)
    (role : Role) (plays : MessageDescriptor → Bool)
    (decides : ∀ message, Role.ofName message.name = role ↔ plays message = true) :
    List.Forall₂ (StructMatches settings role) (messages.filter plays)
      (all.filter (·.role == role)) := by
  induction matched with
  | nil => exact .nil
  | @cons message struct messages all first rest ih =>
      by_cases played : plays message = true
      · have same : Role.ofName message.name = role := (decides message).mpr played
        rw [same] at first
        have kept : (struct.role == role) = true := by simp [first.role]
        rw [List.filter_cons, List.filter_cons, if_pos played, if_pos kept]
        exact .cons first ih
      · have different : Role.ofName message.name ≠ role := fun same =>
          played ((decides message).mp same)
        have dropped : ¬(struct.role == role) = true := by simpa [first.role] using different
        rw [List.filter_cons, List.filter_cons, if_neg played, if_neg dropped]
        exact ih

namespace Role

theorem ofName_eq (message : MessageDescriptor) :
    ofName message.name =
      if message.ends "Request" then request
      else if message.ends "Response" then response
      else plain :=
  rfl

theorem ofName_eq_request (message : MessageDescriptor) :
    ofName message.name = request ↔ message.ends "Request" = true := by
  rw [ofName_eq]
  cases message.ends "Request" <;> cases message.ends "Response" <;> simp

theorem ofName_eq_response (message : MessageDescriptor) :
    ofName message.name = response ↔
      (!message.ends "Request" && message.ends "Response") = true := by
  rw [ofName_eq]
  cases message.ends "Request" <;> cases message.ends "Response" <;> simp

theorem ofName_eq_plain (message : MessageDescriptor) :
    ofName message.name = plain ↔
      (!message.ends "Request" && !message.ends "Response") = true := by
  rw [ofName_eq]
  cases message.ends "Request" <;> cases message.ends "Response" <;> simp

end Role

namespace FileModel

variable {file : FileDescriptor} {presentation : Presentation} {settings : Settings}
variable {options : OptionLookup} {model : FileModel}

/-- The model loses nothing of what the file declares, doubles nothing and keeps the order. -/
theorem build_corresponds (built : build file presentation settings options = .ok model) :
    List.Forall₂ (EnumMatches settings.initialisms none) file.enums model.enums ∧
    List.Forall₂ (StructMatches settings .request)
      (file.messages.filter fun message => message.ends "Request") model.requests ∧
    List.Forall₂ (StructMatches settings .response)
      (file.messages.filter fun message =>
        !message.ends "Request" && message.ends "Response") model.responses ∧
    List.Forall₂ (StructMatches settings .plain)
      (file.messages.filter fun message =>
        !message.ends "Request" && !message.ends "Response") model.structs ∧
    List.Forall₂ (MethodMatches settings model)
      (file.services.flatMap (·.methods)) model.methods := by
  obtain ⟨all, methods, builtStructs, builtMethods, rfl⟩ := build_eq_ok.mp built
  have matched := Assembly.structs_match _ builtStructs
  refine ⟨?_, ?_, ?_, ?_, ?_⟩
  · exact (Assembly.ofFile file presentation settings options).enums_match file.enums
  · exact StructMatches.filter matched .request _ Role.ofName_eq_request
  · exact StructMatches.filter matched .response _ Role.ofName_eq_response
  · exact StructMatches.filter matched .plain _ Role.ofName_eq_plain
  · rw [← file.declaredMethods_map, List.forall₂_map_left_iff]
    have each := Assembly.serviceMethods_flatten _ _ _ file builtMethods
    refine each.imp fun entry method made => ?_
    obtain ⟨request, response, requestFound, responseFound, rfl⟩ :=
      (Assembly.method_eq_ok _ _ _ _ _ _ _ _).mp made
    exact {
      name := ⟨rfl, rfl⟩
      shape := rfl
      request := isLastPart_iff.mpr ((Assembly.payload_eq_ok _ _ _ _ _).mp requestFound).1
      response := isLastPart_iff.mpr ((Assembly.payload_eq_ok _ _ _ _ _).mp responseFound).1 }

theorem actionFile_corresponds :
    ∃ model, build actionFile ⟨"mavsdk.rpc.action", "Action"⟩ {} {} = .ok model ∧
      List.Forall₂ (EnumMatches {} none) actionFile.enums model.enums ∧
      List.Forall₂ (StructMatches {} .request)
        (actionFile.messages.filter fun message => message.ends "Request") model.requests ∧
      List.Forall₂ (StructMatches {} .response)
        (actionFile.messages.filter fun message =>
          !message.ends "Request" && message.ends "Response") model.responses ∧
      List.Forall₂ (StructMatches {} .plain)
        (actionFile.messages.filter fun message =>
          !message.ends "Request" && !message.ends "Response") model.structs ∧
      List.Forall₂ (MethodMatches {} model) (actionFile.services.flatMap (·.methods))
        model.methods := by
  obtain ⟨model, built⟩ := actionFile_builds
  exact ⟨model, built, build_corresponds built⟩

end FileModel
end BindingPress
