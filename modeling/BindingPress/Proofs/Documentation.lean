import BindingPress.Proofs.Places
import BindingPress.Proofs.Undescribed

/-!
Every description in a model is what is documented at the place of the declaration it describes,
where positions are those in the file and not those in the lists that the model splits messages
into. A comment at one place therefore reaches one description only.
-/

namespace BindingPress

open Declaration (positionLimit)

/-- No list of the file is so long that positions in it are changed when they are stored. -/
structure FileDescriptor.HasShortLists (file : FileDescriptor) : Prop where
  messages : file.messages.length < positionLimit
  fields : ∀ message ∈ file.messages, message.fields.length < positionLimit
  nestedEnums : ∀ message ∈ file.messages, message.enums.length < positionLimit
  nestedEnumValues : ∀ message ∈ file.messages, ∀ enum ∈ message.enums,
    enum.values.length < positionLimit
  enums : file.enums.length < positionLimit
  enumValues : ∀ enum ∈ file.enums, enum.values.length < positionLimit
  services : file.services.length < positionLimit
  methods : ∀ service ∈ file.services, service.methods.length < positionLimit

section Described

variable (tells : Declaration → String → Prop)

structure EnumDescribed (declaration : Declaration) (value : Nat → Declaration)
    (descriptor : EnumDescriptor) (enum : Enum) : Prop where
  named : enum.name.raw = descriptor.name
  description : tells declaration enum.description
  values : List.Forall₂ (fun entry described =>
      described.name.raw = entry.1.name ∧ tells (value entry.2) described.description)
    descriptor.values.zipIdx enum.values

structure StructDescribed (entry : MessageDescriptor × Nat) (struct : Struct) : Prop where
  named : struct.name.raw = entry.1.name
  description : tells (.message entry.2) struct.description
  fields : List.Forall₂ (fun field described =>
      described.name.raw = field.1.name ∧ tells (.field entry.2 field.2) described.description)
    entry.1.fields.zipIdx struct.fields
  nestedEnums : List.Forall₂ (fun nested =>
      EnumDescribed tells (.nestedEnum entry.2 nested.2) (.nestedEnumValue entry.2 nested.2)
        nested.1)
    entry.1.enums.zipIdx struct.nestedEnums

structure ModelDescribed (file : FileDescriptor) (model : FileModel) : Prop where
  classDescription : tells (.service 0) model.classDescription
  enums : List.Forall₂ (fun entry =>
      EnumDescribed tells (.enum entry.2) (.enumValue entry.2) entry.1)
    file.enums.zipIdx model.enums
  structs : List.Forall₂ (StructDescribed tells) (file.messagesOf .plain) model.structs
  requests : List.Forall₂ (StructDescribed tells) (file.messagesOf .request) model.requests
  responses : List.Forall₂ (StructDescribed tells) (file.messagesOf .response) model.responses
  methods : List.Forall₂ (fun entry method =>
      method.name.raw = entry.2.1.name ∧ tells (.method entry.1.2 entry.2.2) method.description)
    file.declaredMethods model.methods

end Described

theorem forall₂_zipIdx_mapIdx {α β : Type} {related : α × Nat → β → Prop} {f : Nat → α → β}
    {elements : List α}
    (relates : ∀ entry ∈ elements.zipIdx, related entry (f entry.2 entry.1)) :
    List.Forall₂ related elements.zipIdx (elements.mapIdx f) := by
  rw [List.mapIdx_eq_zipIdx_map, List.forall₂_map_right_iff, List.forall₂_same]
  exact relates

theorem position_lt {α : Type} {elements : List α} {limit : Nat} (short : elements.length < limit)
    {entry : α × Nat} (member : entry ∈ elements.zipIdx) : entry.2 < limit := by
  have bound := List.snd_lt_of_mem_zipIdx member
  omega

namespace Assembly

variable {assembly : Assembly} {tells : Declaration → String → Prop}

theorem enum_described (parent : Option Naming.Identifier) {declaration : Declaration}
    {value : Nat → Declaration} {descriptor : EnumDescriptor}
    (told : tells declaration (assembly.docs.get declaration))
    (valuesTold : ∀ entry ∈ descriptor.values.zipIdx,
      tells (value entry.2) (assembly.docs.get (value entry.2))) :
    EnumDescribed tells declaration value descriptor
      (assembly.enum parent declaration value descriptor) where
  named := rfl
  description := told
  values := forall₂_zipIdx_mapIdx fun entry member => ⟨rfl, valuesTold entry member⟩

variable (told : ∀ declaration : Declaration, declaration.Fits →
  tells declaration (assembly.docs.get declaration))

include told

theorem struct_described {file : FileDescriptor} (short : file.HasShortLists)
    {entry : MessageDescriptor × Nat} (member : entry ∈ file.messages.zipIdx) {struct : Struct}
    (built : assembly.struct entry.2 entry.1 = .ok struct) :
    StructDescribed tells entry struct := by
  have declared : entry.1 ∈ file.messages := List.fst_mem_of_mem_zipIdx member
  have bound : entry.2 < positionLimit := position_lt short.messages member
  obtain ⟨fields, resolved, rfl⟩ := (assembly.struct_eq_ok _ _ _).mp built
  refine ⟨rfl, told _ bound, ?_, ?_⟩
  · rw [tryMapIndexed, tryMapFrom_eq_ok] at resolved
    have placed : ∀ field ∈ entry.1.fields.zipIdx,
        (Declaration.field entry.2 field.2).Fits :=
      fun field among => ⟨bound, position_lt (short.fields _ declared) among⟩
    have paired := List.forall₂_and_left _ _ |>.mpr ⟨placed, resolved⟩
    refine paired.imp fun field described made => ?_
    obtain ⟨fits, built⟩ := made
    obtain ⟨typeInfo, found, rfl⟩ := (assembly.field_eq_ok _ _ _ _ _).mp built
    exact ⟨rfl, told _ fits⟩
  · refine forall₂_zipIdx_mapIdx fun nested among => ?_
    have inner : nested.2 < positionLimit := position_lt (short.nestedEnums _ declared) among
    refine enum_described _ (told _ ⟨bound, inner⟩) fun value within => told _ ⟨bound, inner, ?_⟩
    exact position_lt
      (short.nestedEnumValues _ declared _ (List.fst_mem_of_mem_zipIdx among)) within

theorem structs_described {file : FileDescriptor} (short : file.HasShortLists) {all : List Struct}
    (built : tryMapIndexed assembly.struct file.messages = .ok all) (role : Role) :
    List.Forall₂ (StructDescribed tells) (file.messagesOf role) (all.filter (·.role == role)) :=
  (assembly.structs_ofRole built role).imp fun _ _ ⟨member, made⟩ =>
    struct_described told short member made

theorem enums_described {file : FileDescriptor} (short : file.HasShortLists) :
    List.Forall₂ (fun entry =>
        EnumDescribed tells (.enum entry.2) (.enumValue entry.2) entry.1)
      file.enums.zipIdx (assembly.enums file.enums) := by
  refine forall₂_zipIdx_mapIdx fun entry member => ?_
  have bound : entry.2 < positionLimit := position_lt short.enums member
  refine enum_described _ (told _ bound) fun value within => told _ ⟨bound, ?_⟩
  exact position_lt (short.enumValues _ (List.fst_mem_of_mem_zipIdx member)) within

theorem methods_described {file : FileDescriptor} (short : file.HasShortLists)
    {requests responses : List Struct}
    {methods : List (List (Method requests.length responses.length))}
    (built : tryMapIndexed (assembly.serviceMethods requests responses) file.services =
      .ok methods) :
    List.Forall₂ (fun entry method =>
        method.name.raw = entry.2.1.name ∧ tells (.method entry.1.2 entry.2.2) method.description)
      file.declaredMethods methods.flatten := by
  have placed : ∀ entry ∈ file.declaredMethods,
      (Declaration.method entry.1.2 entry.2.2).Fits := by
    intro entry member
    obtain ⟨among, within⟩ := FileDescriptor.mem_declaredMethods member
    exact ⟨position_lt short.services among,
      position_lt (short.methods _ (List.fst_mem_of_mem_zipIdx among)) within⟩
  have each := assembly.serviceMethods_flatten requests responses file built
  have paired := List.forall₂_and_left _ _ |>.mpr ⟨placed, each⟩
  refine paired.imp fun entry method ⟨fits, made⟩ => ?_
  obtain ⟨request, response, _, _, rfl⟩ := (assembly.method_eq_ok _ _ _ _ _ _ _).mp made
  exact ⟨rfl, told _ fits⟩

end Assembly

namespace FileModel

variable {file : FileDescriptor} {presentation : Presentation} {settings : Settings}
variable {options : OptionLookup} {model : FileModel}

theorem build_described (short : file.HasShortLists) {locations : List Location}
    (built : build { file with locations } presentation settings options = .ok model)
    {tells : Declaration → String → Prop}
    (told : ∀ declaration : Declaration, declaration.Fits →
      tells declaration ((DocIndex.ofLocations locations).get declaration)) :
    ModelDescribed tells file model := by
  obtain ⟨all, methods, builtStructs, builtMethods, rfl⟩ := build_eq_ok.mp built
  exact {
    classDescription := told _ (show 0 < positionLimit by decide)
    enums := Assembly.enums_described told short
    structs := Assembly.structs_described told short builtStructs .plain
    requests := Assembly.structs_described told short builtStructs .request
    responses := Assembly.structs_described told short builtStructs .response
    methods := Assembly.methods_described told short builtMethods }

/-- Every description is the text that is documented at the place of its declaration; when comments
are added or taken away at the place of one declaration, no other description changes, nor does
anything else in the model. -/
theorem build_descriptions (short : file.HasShortLists)
    (built : build file presentation settings options = .ok model) :
    ModelDescribed (fun declaration text =>
        text = ((DocIndex.ofLocations file.locations).get? declaration.place).getD "") file model ∧
    ∀ (changed : Declaration) (locations : List Location),
      (locations.filter fun location => location.path != changed.place) =
          (file.locations.filter fun location => location.path != changed.place) →
        ∃ revised, build { file with locations } presentation settings options = .ok revised ∧
          revised.undescribed = model.undescribed ∧
          ModelDescribed (fun declaration text => declaration ≠ changed →
            text = ((DocIndex.ofLocations file.locations).get? declaration.place).getD "")
              file revised := by
  constructor
  · refine build_described short built fun declaration fits => ?_
    rw [DocIndex.get, Declaration.path_eq_place fits]
  · intro changed locations same
    obtain ⟨revised, rebuilt, unchanged⟩ := build_withLocations built locations
    refine ⟨revised, rebuilt, unchanged, ?_⟩
    refine build_described short rebuilt fun declaration fits different => ?_
    have elsewhere : declaration.place ≠ changed.place :=
      fun equal => different (Declaration.place_injective equal)
    rw [DocIndex.get, Declaration.path_eq_place fits,
      DocIndex.get?_ofLocations_congr same elsewhere]

def actionComments : List Location := [
  { path := [4, 2], leading := some " Asks for arming.\n" },
  { path := [4, 1, 2, 1], trailing := some " What was asked for." },
  { path := [6, 1, 2, 0], leading := some " ", detached := ["Stops the motors."] }]

theorem actionComments_descriptions :
    ∃ model revised,
      build { actionFile with locations := actionComments } ⟨"mavsdk.rpc.action", "Action"⟩ {} {} =
        .ok model ∧
      build { actionFile with locations := actionComments.tail } ⟨"mavsdk.rpc.action", "Action"⟩
        {} {} = .ok revised ∧
      ModelDescribed (fun declaration text =>
          text = ((DocIndex.ofLocations actionComments).get? declaration.place).getD "")
        { actionFile with locations := actionComments } model ∧
      revised.undescribed = model.undescribed ∧
      ModelDescribed (fun declaration text => declaration ≠ .message 2 →
          text = ((DocIndex.ofLocations actionComments).get? declaration.place).getD "")
        { actionFile with locations := actionComments } revised := by
  obtain ⟨plain, builtPlain⟩ := actionFile_builds
  obtain ⟨model, built, _⟩ := build_withLocations builtPlain actionComments
  have short : FileDescriptor.HasShortLists { actionFile with locations := actionComments } := by
    constructor <;> decide
  obtain ⟨described, others⟩ := build_descriptions short built
  obtain ⟨revised, rebuilt, unchanged, kept⟩ := others (.message 2) actionComments.tail (by decide)
  exact ⟨model, revised, built, rebuilt, described, unchanged, kept⟩

end FileModel
end BindingPress
