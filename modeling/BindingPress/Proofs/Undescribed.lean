import BindingPress.Proofs.Failure

/-!
Models without their descriptions. Comments have no part in them: a file that loses its comments
still has its model, without descriptions and otherwise the same.
-/

namespace BindingPress

def EnumValue.undescribed (value : EnumValue) : EnumValue :=
  { value with description := "" }

def Enum.undescribed (enum : Enum) : Enum :=
  { enum with description := "", values := enum.values.map EnumValue.undescribed }

def Field.undescribed (field : Field) : Field :=
  { field with description := "" }

def Struct.undescribed (struct : Struct) : Struct :=
  { struct with
    description := ""
    fields := struct.fields.map Field.undescribed
    nestedEnums := struct.nestedEnums.map Enum.undescribed }

@[simp]
theorem Struct.undescribed_name (struct : Struct) : struct.undescribed.name = struct.name := rfl

def Method.undescribed {requests responses requests' responses' : Nat}
    (sameRequests : requests = requests') (sameResponses : responses = responses')
    (method : Method requests responses) : Method requests' responses' where
  name := method.name
  description := ""
  shape := method.shape
  target := method.target
  kind := method.kind
  options := method.options
  hasResult := method.hasResult
  request := method.request.cast sameRequests
  response := method.response.cast sameResponses

def FileModel.undescribed (model : FileModel) : FileModel where
  package := model.package
  pluginName := model.pluginName
  classDescription := ""
  enums := model.enums.map Enum.undescribed
  structs := model.structs.map Struct.undescribed
  requests := model.requests.map Struct.undescribed
  responses := model.responses.map Struct.undescribed
  methods := model.methods.map
    (Method.undescribed (List.length_map ..).symm (List.length_map ..).symm)
  hasResult := model.hasResult
  isServer := model.isServer

theorem tryMapFrom_eq_ok_map {α β γ ε : Type} {f : Nat → α → Except ε β} {g : Nat → α → Except ε γ}
    {change : β → γ}
    (changes : ∀ index element result, f index element = .ok result →
      g index element = .ok (change result))
    {start : Nat} {elements : List α} {results : List β}
    (succeeded : tryMapFrom f start elements = .ok results) :
    tryMapFrom g start elements = .ok (results.map change) := by
  rw [tryMapFrom_eq_ok] at succeeded ⊢
  rw [List.forall₂_map_right_iff]
  exact succeeded.imp fun (element, index) result => changes index element result

theorem map_mapIdx {α β γ : Type} (f : Nat → α → β) (g : β → γ) (elements : List α) :
    (elements.mapIdx f).map g = elements.mapIdx fun index element => g (f index element) := by
  rw [List.mapIdx_eq_zipIdx_map, List.mapIdx_eq_zipIdx_map, List.map_map]
  rfl

theorem Struct.returnField?_undescribed (struct : Struct) :
    struct.undescribed.returnField? = struct.returnField?.map Field.undescribed := by
  simp only [returnField?, undescribed, List.find?_map]
  rfl

namespace Assembly

variable (assembly : Assembly)

def undocumented : Assembly :=
  { assembly with docs := {} }

theorem enum_undocumented (parent : Option Naming.Identifier) (declaration : Declaration)
    (value : Nat → Declaration) (descriptor : EnumDescriptor) :
    assembly.undocumented.enum parent declaration value descriptor =
      (assembly.enum parent declaration value descriptor).undescribed := by
  simp only [enum, Enum.undescribed, map_mapIdx]
  rfl

theorem enums_undocumented (descriptors : List EnumDescriptor) :
    assembly.undocumented.enums descriptors =
      (assembly.enums descriptors).map Enum.undescribed := by
  simp only [enums, map_mapIdx, enum_undocumented]

theorem ofFile_undocumented (file : FileDescriptor) (presentation : Presentation)
    (settings : Settings) (options : OptionLookup) :
    ofFile { file with locations := [] } presentation settings options =
      (ofFile file presentation settings options).undocumented :=
  rfl

variable {assembly}

theorem field_undocumented {message : Nat} {scope : String} {index : Nat}
    {descriptor : FieldDescriptor} {field : Field}
    (built : assembly.field message scope index descriptor = .ok field) :
    assembly.undocumented.field message scope index descriptor = .ok field.undescribed := by
  obtain ⟨typeInfo, resolved, rfl⟩ := (assembly.field_eq_ok _ _ _ _ _).mp built
  exact (assembly.undocumented.field_eq_ok _ _ _ _ _).mpr ⟨typeInfo, resolved, rfl⟩

theorem struct_undocumented {index : Nat} {descriptor : MessageDescriptor} {struct : Struct}
    (built : assembly.struct index descriptor = .ok struct) :
    assembly.undocumented.struct index descriptor = .ok struct.undescribed := by
  obtain ⟨fields, resolved, rfl⟩ := (assembly.struct_eq_ok _ _ _).mp built
  refine (assembly.undocumented.struct_eq_ok _ _ _).mpr ⟨fields.map Field.undescribed, ?_, ?_⟩
  · exact tryMapFrom_eq_ok_map (fun _ _ _ => field_undocumented) resolved
  · simp only [Struct.undescribed, map_mapIdx, enum_undocumented, List.any_map]
    rfl

theorem payload_undescribed {candidates : List Struct} {kind : Payload} {method type : String}
    {position : Fin candidates.length}
    (found : payload candidates kind method type = .ok position) :
    payload (candidates.map Struct.undescribed) kind method type =
      .ok (position.cast (List.length_map ..).symm) := by
  obtain ⟨named, unmatched⟩ := (payload_eq_ok _ _ _ _ _).mp found
  refine (payload_eq_ok _ _ _ _ _).mpr ⟨?_, ?_⟩
  · simpa using named
  · rw [Fin.val_cast, ← List.map_take, List.forall_mem_map]
    exact unmatched

theorem method_undocumented {requests responses : List Struct} {service : Nat} {scope : String}
    {index : Nat} {descriptor : MethodDescriptor}
    {method : Method requests.length responses.length}
    (built : assembly.method requests responses service scope index descriptor = .ok method) :
    assembly.undocumented.method (requests.map Struct.undescribed)
        (responses.map Struct.undescribed) service scope index descriptor =
      .ok (method.undescribed (List.length_map ..).symm (List.length_map ..).symm) := by
  obtain ⟨request, response, requestFound, responseFound, rfl⟩ :=
    (assembly.method_eq_ok _ _ _ _ _ _ _).mp built
  refine (assembly.undocumented.method_eq_ok _ _ _ _ _ _ _).mpr
    ⟨_, _, payload_undescribed requestFound, payload_undescribed responseFound, ?_⟩
  have same : (responses.map Struct.undescribed).get (response.cast (List.length_map ..).symm) =
      (responses.get response).undescribed := by
    simp
  rw [same]
  simp only [methodKind, Struct.returnField?_undescribed, Option.isSome_map]
  rfl

theorem methods_undocumented {requests responses : List Struct} {services : List ServiceDescriptor}
    {methods : List (List (Method requests.length responses.length))}
    (built : tryMapIndexed (assembly.serviceMethods requests responses) services = .ok methods) :
    tryMapIndexed (assembly.undocumented.serviceMethods (requests.map Struct.undescribed)
        (responses.map Struct.undescribed)) services =
      .ok (methods.map (·.map
        (Method.undescribed (List.length_map ..).symm (List.length_map ..).symm))) :=
  tryMapFrom_eq_ok_map
    (fun _ _ _ found => tryMapFrom_eq_ok_map (fun _ _ _ => method_undocumented) found) built

end Assembly

namespace FileModel

variable {file : FileDescriptor} {presentation : Presentation} {settings : Settings}
variable {options : OptionLookup} {model : FileModel}

theorem build_undocumented (built : build file presentation settings options = .ok model) :
    build { file with locations := [] } presentation settings options = .ok model.undescribed := by
  obtain ⟨all, methods, builtStructs, builtMethods, rfl⟩ := build_eq_ok.mp built
  have kept : ∀ role, (all.map Struct.undescribed).filter (·.role == role) =
      (all.filter (·.role == role)).map Struct.undescribed := by
    intro role
    rw [List.filter_map]
    rfl
  refine build_eq_ok.mpr ⟨all.map Struct.undescribed, ?_⟩
  rw [kept .plain, Assembly.ofFile_undocumented]
  generalize allRequests : (all.map Struct.undescribed).filter (·.role == .request) = requests
  generalize allResponses : (all.map Struct.undescribed).filter (·.role == .response) = responses
  obtain rfl := allRequests.symm.trans (kept .request)
  obtain rfl := allResponses.symm.trans (kept .response)
  refine ⟨_, tryMapFrom_eq_ok_map (fun _ _ _ => Assembly.struct_undocumented) builtStructs,
    Assembly.methods_undocumented builtMethods, ?_⟩
  simp only [undescribed, List.map_flatten, List.any_map, ← Assembly.enums_undocumented]
  rfl

/-- Whatever comments a file has, its model is the same apart from the descriptions. -/
theorem build_withLocations (built : build file presentation settings options = .ok model)
    (locations : List Location) :
    ∃ revised, build { file with locations } presentation settings options = .ok revised ∧
      revised.undescribed = model.undescribed := by
  have fails : (∃ error, build { file with locations } presentation settings options =
      .error error) ↔ ∃ error, build file presentation settings options = .error error :=
    (build_fails_iff { file with locations } presentation settings options).trans
      (build_fails_iff file presentation settings options).symm
  cases outcome : build { file with locations } presentation settings options with
  | error error =>
      obtain ⟨other, failed⟩ := fails.mp ⟨error, outcome⟩
      simp [built] at failed
  | ok revised =>
      have bare := build_undocumented built
      have revisedBare := build_undocumented outcome
      exact ⟨revised, rfl, Except.ok.inj (revisedBare.symm.trans bare)⟩

end FileModel
end BindingPress
