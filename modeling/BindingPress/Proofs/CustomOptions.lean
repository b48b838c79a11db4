import BindingPress.Proofs.Assembly
import BindingPress.Proofs.MadePool
import BindingPress.Proofs.OptionBytes

/-!
The custom options in a model are those that the declarations themselves carry. A declaration is
looked up by a name that is put together again, in a pool that was read from the same bytes; what is
found is what the last record of an option holds, whatever package the file is presented under.
-/

namespace BindingPress

open Wire (Content Record contentsOf)

namespace Wire.Content

def choice? : Content → Option Int
  | varint value => some (signed32 value)
  | _ => none

def flag? : Content → Option Bool
  | varint value => some (value != 0)
  | _ => none

def text? : Content → Option String
  | chunk bytes => bytes.text?
  | _ => none

def double? : Content → Option Binary64
  | fixed64 bits => some ⟨UInt64.ofNat bits⟩
  | _ => none

end Wire.Content

/-- The last record of a number carries the value; where there is no record, there is none. -/
def Carried {α : Type} (reads : Content → Option α) (number : Nat) (records : List Record) :
    Option α → Prop
  | none => contentsOf number records = []
  | some value => ∃ last, (contentsOf number records).getLast? = some last ∧
      reads last = some value

namespace Pool

/-- The extension of a name extends the options of a kind, holds a single value, and is what its
number leads to. -/
structure Declares (pool : Pool) (kind : DescriptorKind) (name : String) (field : PoolField) :
    Prop where
  found : pool.extensions.lookup name = some field
  owner : field.owner = kind.optionsName
  singular : field.descriptor.isRepeated = false
  leads : pool.field? kind.optionsName field.number = some field

instance {pool : Pool} {kind : DescriptorKind} {name : String} {field : PoolField} :
    Decidable (pool.Declares kind name field) :=
  decidable_of_iff (pool.extensions.lookup name = some field ∧ field.owner = kind.optionsName ∧
      field.descriptor.isRepeated = false ∧ pool.field? kind.optionsName field.number = some field)
    ⟨fun ⟨found, owner, singular, leads⟩ => ⟨found, owner, singular, leads⟩,
      fun declares => ⟨declares.found, declares.owner, declares.singular, declares.leads⟩⟩

/-- The options of a declaration are found under its name, none of the pool's maps is spelled in
another form, and the option is not given by name. -/
structure RecordsDecide (pool : Pool) (scope : String) (site : OptionSite) (records : List Record)
    (field : PoolField) : Prop where
  undotted : scope.toList.head? ≠ some '.'
  kept : Wire.keepMaps pool site.kind.optionsName records = true
  unnamed : pool.givesByName site field.number = false

instance {pool : Pool} {scope : String} {site : OptionSite} {records : List Record}
    {field : PoolField} : Decidable (pool.RecordsDecide scope site records field) :=
  decidable_of_iff (scope.toList.head? ≠ some '.' ∧
      Wire.keepMaps pool site.kind.optionsName records = true ∧
      pool.givesByName site field.number = false)
    ⟨fun ⟨undotted, kept, unnamed⟩ => ⟨undotted, kept, unnamed⟩,
      fun decides => ⟨decides.undotted, decides.kept, decides.unnamed⟩⟩

theorem withoutDot_eq {name : String} (undotted : name.toList.head? ≠ some '.') :
    withoutDot name = name := by
  unfold withoutDot
  split
  next rest dotted => simp [dotted] at undotted
  next => rfl

variable {files : List FileDescriptor} {pool : Pool}

namespace Made

variable (made : Made files pool)

include made

theorem extension_sound {name : String} {field : PoolField}
    (member : (name, field) ∈ pool.extensions) :
    (pool.message? field.owner).isSome = true ∧ 1 ≤ field.descriptor.number := by
  have sound := made.isSound
  simp only [Pool.isSound, Bool.and_eq_true, List.all_eq_true] at sound
  obtain ⟨message, found, admitted⟩ := (Option.any_eq_true ..).mp (sound.1.2 _ member).2
  simp only [MessageDescriptor.admits, FieldDescriptor.hasValidNumber, Bool.and_eq_true,
    decide_eq_true_eq] at admitted
  exact ⟨by simp [found], admitted.1.1.1.1⟩

variable {kind : DescriptorKind} {name : String} {field : PoolField}
variable (declares : pool.Declares kind name field)

include declares

theorem describing_eq : pool.describing kind = pool := by
  have sound := (made.extension_sound (mem_of_lookup declares.found)).1
  rw [declares.owner] at sound
  rw [describing, if_pos sound]

theorem ownField?_eq_none : pool.ownField? kind.optionsName field.number = none := by
  rw [Option.eq_none_iff_forall_ne_some]
  intro own reached
  have leads := declares.leads
  rw [field?, reached] at leads
  obtain rfl : own = field := Option.some.inj leads
  have plain := made.ownFields _ (List.mem_of_find?_eq_some reached)
  rw [(made.extensions _ (mem_of_lookup declares.found)).1] at plain
  cases plain

theorem not_mem_rivals {other : PoolField} (owned : other.owner = kind.optionsName) :
    field.number ∉ pool.rivals other := by
  have positive := (made.extension_sound (mem_of_lookup declares.found)).2
  intro member
  unfold rivals at member
  split at member
  · simp at member
  · obtain ⟨rival, filtered, sameNumber⟩ := List.mem_map.mp member
    obtain ⟨own, rivals⟩ := List.mem_filter.mp filtered
    simp only [Bool.and_eq_true, beq_iff_eq] at rivals
    have sameInteger : rival.descriptor.number = (field.number : Int) := by
      simp only [PoolField.number] at sameNumber ⊢
      omega
    have missing := List.find?_eq_none.mp (made.ownField?_eq_none declares) rival own
    simp [sameInteger, rivals.1.1, owned] at missing

theorem keeps (simple : field.type.isMessage = false) : pool.Keeps kind.optionsName field where
  found := declares.leads
  singular := declares.singular
  simple := simple
  apart _ owned := made.not_mem_rivals declares owned

end Made

variable (made : Made files pool) {site : OptionSite} {name : String} {field : PoolField}
variable (declares : pool.Declares site.kind name field) {scope : String} {records : List Record}
variable (spelled : Wire.records? site.options = some records)
variable (decides : pool.RecordsDecide scope site records field)
variable (readable : ∃ fields, pool.interpret? site = some fields)

include made declares spelled decides readable

theorem option?_eq (simple : field.type.isMessage = false) :
    (∀ content ∈ contentsOf field.number records, ∃ value, field.type.value? content = some value) ∧
      pool.option? site name =
        (contentsOf field.number records).getLast?.bind field.type.value? := by
  have keeps := made.keeps declares simple
  have described := made.describing_eq declares
  obtain ⟨fields, interpreted⟩ := readable
  have extended := made.ownField?_eq_none declares
  obtain ⟨plain, read, same⟩ :=
    interpret?_get? described keeps.apart extended decides.unnamed interpreted
  obtain ⟨values, final⟩ := readMessage?_get? keeps spelled decides.kept read
  refine ⟨values, ?_⟩
  have present : field.hasPresence = true := by
    rw [(made.extensions _ (mem_of_lookup declares.found)).2, declares.singular]
    rfl
  have counted : (fields.get? field.number).filter (pool.counts field) =
      fields.get? field.number := by
    cases fields.get? field.number with
    | none => rfl
    | some value => simp [counts, present]
  simp only [option?, declares.found, described, declares.leads, interpreted, Option.bind_eq_bind,
    Option.bind_some, counted]
  rw [same, final]

theorem option?_carried {α : Type} {reads : Content → Option α} {result : Option α}
    (simple : field.type.isMessage = false)
    (absent : pool.option? site name = none → result = none)
    (present : ∀ content value, field.type.value? content = some value →
      pool.option? site name = some value →
        ∃ given, result = some given ∧ reads content = some given) :
    Carried reads field.number records result := by
  obtain ⟨values, same⟩ := option?_eq made declares spelled decides readable simple
  cases final : (contentsOf field.number records).getLast? with
  | none =>
      rw [absent (by rw [same, final]; rfl)]
      exact List.getLast?_eq_none_iff.mp final
  | some last =>
      obtain ⟨value, stands⟩ := values last (List.mem_of_getLast? final)
      have found : pool.option? site name = some value := by
        rw [same, final, Option.bind_some, stands]
      obtain ⟨given, rfl, read⟩ := present last value stands found
      exact ⟨last, final, read⟩

theorem enumOption?_carried {enum : String} (type : field.type = .enum enum) :
    Carried Content.choice? field.number records (pool.enumOption? site name) := by
  refine option?_carried made declares spelled decides readable (by rw [type]; rfl)
    (fun missing => by simp [enumOption?, missing]) ?_
  intro content value stands found
  rw [type] at stands
  cases content with
  | varint number =>
      obtain rfl := Option.some.inj stands
      exact ⟨Wire.signed32 number, by rw [enumOption?, found]; rfl, rfl⟩
  | fixed32 | fixed64 | chunk | group => simp [ResolvedType.value?] at stands

theorem boolOption?_carried (type : field.type = .scalar .bool) :
    Carried Content.flag? field.number records (pool.boolOption? site name) := by
  refine option?_carried made declares spelled decides readable (by rw [type]; rfl)
    (fun missing => by simp [boolOption?, missing]) ?_
  intro content value stands found
  rw [type] at stands
  cases content with
  | varint number =>
      obtain rfl := Option.some.inj stands
      exact ⟨_, by rw [boolOption?, found], rfl⟩
  | fixed32 | fixed64 | chunk | group =>
      simp [ResolvedType.value?, FieldType.value?, FieldType.form] at stands

theorem textOption?_carried (type : field.type = .scalar .string) :
    Carried Content.text? field.number records (pool.textOption? site name) := by
  refine option?_carried made declares spelled decides readable (by rw [type]; rfl)
    (fun missing => by simp [textOption?, missing]) ?_
  intro content value stands found
  rw [type] at stands
  cases content with
  | chunk bytes =>
      obtain ⟨text, spelled, rfl⟩ := Option.map_eq_some_iff.mp stands
      exact ⟨text, by rw [textOption?, found], spelled⟩
  | varint | fixed32 | fixed64 | group =>
      simp [ResolvedType.value?, FieldType.value?, FieldType.form] at stands

theorem doubleOption?_carried (type : field.type = .scalar .double) :
    Carried Content.double? field.number records (pool.doubleOption? site name) := by
  refine option?_carried made declares spelled decides readable (by rw [type]; rfl)
    (fun missing => by simp [doubleOption?, missing]) ?_
  intro content value stands found
  rw [type] at stands
  cases content with
  | fixed64 bits =>
      obtain rfl := Option.some.inj stands
      exact ⟨_, by rw [doubleOption?, found], rfl⟩
  | varint | fixed32 | chunk | group =>
      simp [ResolvedType.value?, FieldType.value?, FieldType.form] at stands

end Pool

structure Pool.CustomOptions (pool : Pool) where
  asyncType : PoolField
  isFinite : PoolField
  defaultValue : PoolField
  epsilon : PoolField
  asyncType_declared : pool.Declares .methodOptions "mavsdk.options.async_type" asyncType
  asyncType_type : ∃ enum, asyncType.type = .enum enum
  isFinite_declared : pool.Declares .methodOptions "mavsdk.options.is_finite" isFinite
  isFinite_type : isFinite.type = .scalar .bool
  defaultValue_declared :
    pool.Declares .fieldOptions "mavsdk.options.default_value" defaultValue
  defaultValue_type : defaultValue.type = .scalar .string
  epsilon_declared : pool.Declares .fieldOptions "mavsdk.options.epsilon" epsilon
  epsilon_type : epsilon.type = .scalar .double

def AsyncType.ofChoice : Option Int → AsyncType
  | some 0 => .async
  | some 1 => .sync
  | _ => .both

theorem AsyncType.ofChoice_eq (choice : Option Int) :
    (choice.bind ofNumber?).getD .both = ofChoice choice := by
  cases choice with
  | none => rfl
  | some number =>
      simp only [Option.bind_some]
      unfold ofNumber?
      split <;> simp_all [ofChoice]

section Carries

variable (pool : Pool) (custom : pool.CustomOptions) (file : FileDescriptor)

structure MethodCarries (service : ServiceDescriptor) (method : MethodDescriptor)
    (records : List Record) (options : MethodOptions) : Prop where
  asyncType : pool.RecordsDecide (qualified file.package service.name)
      (file.methodSite service method) records custom.asyncType →
    ∃ choice, Carried Content.choice? custom.asyncType.number records choice ∧
      options.asyncType = AsyncType.ofChoice choice
  isFinite : pool.RecordsDecide (qualified file.package service.name)
      (file.methodSite service method) records custom.isFinite →
    ∃ flag, Carried Content.flag? custom.isFinite.number records flag ∧
      options.isFinite = flag.getD false

structure FieldCarries (message : MessageDescriptor) (field : FieldDescriptor)
    (records : List Record) (options : FieldOptions) : Prop where
  defaultValue : pool.RecordsDecide (qualified file.package message.name)
      (file.fieldSite message field) records custom.defaultValue →
    Carried Content.text? custom.defaultValue.number records options.defaultValue
  epsilon : pool.RecordsDecide (qualified file.package message.name)
      (file.fieldSite message field) records custom.epsilon →
    Carried Content.double? custom.epsilon.number records options.epsilon

end Carries

namespace Pool.Made

variable {files : List FileDescriptor} {pool : Pool} (made : Made files pool)
variable (custom : pool.CustomOptions) {file : FileDescriptor} (member : file ∈ files)
variable {records : List Record}

include made member

theorem method_carries {service : ServiceDescriptor} (declared : service ∈ file.services)
    {method : MethodDescriptor} (within : method ∈ service.methods)
    (spelled : Wire.records? method.options = some records) :
    MethodCarries pool custom file service method records
      ((OptionLookup.ofPool pool).method (qualified file.package service.name) method.name) := by
  have readable := made.interpret?_succeeds member (FileDescriptor.methodSite_mem declared within)
  have found (undotted : (qualified file.package service.name).toList.head? ≠ some '.') :
      (OptionLookup.ofPool pool).method (qualified file.package service.name) method.name =
        pool.methodOptions (file.methodSite service method) := by
    simp only [OptionLookup.ofPool,
      made.methodSite?_eq member declared within (withoutDot_eq undotted)]
  constructor
  · intro decides
    obtain ⟨enum, type⟩ := custom.asyncType_type
    refine ⟨_, enumOption?_carried made custom.asyncType_declared spelled decides readable type, ?_⟩
    rw [found decides.undotted]
    exact AsyncType.ofChoice_eq _
  · intro decides
    refine ⟨_, boolOption?_carried made custom.isFinite_declared spelled decides readable
      custom.isFinite_type, ?_⟩
    rw [found decides.undotted]
    rfl

theorem field_carries {message : MessageDescriptor} (declared : message ∈ file.messages)
    {field : FieldDescriptor} (within : field ∈ message.fields)
    (spelled : Wire.records? field.options = some records) :
    FieldCarries pool custom file message field records
      ((OptionLookup.ofPool pool).field (qualified file.package message.name) field.name) := by
  have readable := made.interpret?_succeeds member (FileDescriptor.fieldSite_mem declared within)
  have found (undotted : (qualified file.package message.name).toList.head? ≠ some '.') :
      (OptionLookup.ofPool pool).field (qualified file.package message.name) field.name =
        pool.fieldOptions (file.fieldSite message field) := by
    simp only [OptionLookup.ofPool,
      made.fieldSite?_eq member declared within (withoutDot_eq undotted)]
  constructor
  · intro decides
    rw [found decides.undotted]
    exact textOption?_carried made custom.defaultValue_declared spelled decides readable
      custom.defaultValue_type
  · intro decides
    rw [found decides.undotted]
    exact doubleOption?_carried made custom.epsilon_declared spelled decides readable
      custom.epsilon_type

end Pool.Made

namespace FileModel

variable {raws : List Bytes} {pool : Pool} {raw : Bytes} {file : FileDescriptor}
variable {presentation : Presentation} {settings : Settings} {model : FileModel}

def StructCarries (pool : Pool) (custom : pool.CustomOptions) (file : FileDescriptor)
    (entry : MessageDescriptor × Nat) (struct : Struct) : Prop :=
  List.Forall₂ (fun descriptor field => ∃ records,
      Wire.records? descriptor.options = some records ∧
        FieldCarries pool custom file entry.1 descriptor records
          ⟨field.defaultValue, field.epsilon⟩)
    entry.1.fields struct.fields

theorem struct_carries {files : List FileDescriptor} (made : Pool.Made files pool)
    (custom : pool.CustomOptions) (member : file ∈ files)
    (decoded : FileDescriptor.decode? raw = some file) {assembly : Assembly}
    (package : assembly.package = file.package)
    (options : assembly.options = OptionLookup.ofPool pool) {entry : MessageDescriptor × Nat}
    (declared : entry.1 ∈ file.messages) {struct : Struct}
    (built : assembly.struct entry.2 entry.1 = .ok struct) :
    StructCarries pool custom file entry struct := by
  obtain ⟨fields, resolved, rfl⟩ := (assembly.struct_eq_ok _ _ _).mp built
  rw [tryMapIndexed, tryMapFrom_eq_ok] at resolved
  have paired := List.forall₂_and_left _ _ |>.mpr
    ⟨fun _ among => List.fst_mem_of_mem_zipIdx among, resolved⟩
  rw [StructCarries, ← List.zipIdx_map_fst 0 entry.1.fields, List.forall₂_map_left_iff]
  refine paired.imp fun descriptor field builtField => ?_
  obtain ⟨within, succeeded⟩ := builtField
  obtain ⟨typeInfo, _, rfl⟩ := (assembly.field_eq_ok _ _ _ _ _).mp succeeded
  obtain ⟨records, spelled⟩ := FileDescriptor.field_records decoded declared within
  rw [package, options]
  exact ⟨records, spelled, made.field_carries custom member declared within spelled⟩

/-- The options in a model are those that the option bytes of the very declarations carry. -/
theorem build_options (pooled : Pool.decode? (FileSet.encode ⟨raws⟩) = some pool)
    (custom : pool.CustomOptions) (member : raw ∈ raws)
    (decoded : FileDescriptor.decode? raw = some file)
    (built : build file presentation settings (OptionLookup.ofRawFiles raws) = .ok model) :
    List.Forall₂ (fun entry method => ∃ records,
        Wire.records? entry.2.1.options = some records ∧
          MethodCarries pool custom file entry.1.1 entry.2.1 records method.options)
      file.declaredMethods model.methods ∧
    List.Forall₂ (StructCarries pool custom file) (file.messagesOf .plain) model.structs ∧
    List.Forall₂ (StructCarries pool custom file) (file.messagesOf .request) model.requests ∧
    List.Forall₂ (StructCarries pool custom file) (file.messagesOf .response) model.responses := by
  have lookup : OptionLookup.ofRawFiles raws = OptionLookup.ofPool pool := by
    rw [OptionLookup.ofRawFiles, pooled]
  rw [lookup] at built
  obtain ⟨files, made, related⟩ := Pool.decode?_made pooled
  have among : file ∈ files := by
    obtain ⟨found, among, (same : FileDescriptor.decode? raw = some found)⟩ :=
      Wire.exists_of_mem_right related.flip member
    rw [decoded] at same
    exact Option.some.inj same ▸ among
  obtain ⟨all, methods, builtStructs, builtMethods, rfl⟩ := build_eq_ok.mp built
  have structs (role : Role) : List.Forall₂ (StructCarries pool custom file)
      (file.messagesOf role) (all.filter (·.role == role)) :=
    (Assembly.structs_ofRole _ builtStructs role).imp fun entry struct ⟨listed, madeStruct⟩ =>
      struct_carries made custom among decoded rfl rfl (List.fst_mem_of_mem_zipIdx listed)
        madeStruct
  refine ⟨?_, structs .plain, structs .request, structs .response⟩
  have each := Assembly.serviceMethods_flatten _ _ _ file builtMethods
  have paired := List.forall₂_and_left _ _ |>.mpr
    ⟨fun _ listed => FileDescriptor.mem_declaredMethods listed, each⟩
  refine paired.imp fun entry method ⟨⟨serviceListed, methodListed⟩, madeMethod⟩ => ?_
  have declared := List.fst_mem_of_mem_zipIdx serviceListed
  have within := List.fst_mem_of_mem_zipIdx methodListed
  obtain ⟨request, response, _, _, rfl⟩ := (Assembly.method_eq_ok _ _ _ _ _ _ _ _).mp madeMethod
  obtain ⟨records, spelled⟩ := FileDescriptor.method_records decoded declared within
  exact ⟨records, spelled, made.method_carries custom among declared within spelled⟩

end FileModel

/-! Files in their encoded form, piece by piece. -/

namespace Encoded

open Wire (chunk)

def text (field : Nat) (value : String) : Bytes :=
  chunk field (Bytes.ofText value)

def number (field value : Nat) : Bytes :=
  Wire.varint (field * 8) ++ Wire.varint value

def optionsMessage (name : String) : Bytes :=
  chunk 4 (text 1 name ++ chunk 5 (number 1 999 ++ number 2 2000))

def descriptorFile : Bytes :=
  text 1 "d" ++ text 2 "google.protobuf" ++ optionsMessage "MethodOptions" ++
    optionsMessage "FieldOptions"

def extending (kind : DescriptorKind) (name : String) (place type : Nat) (more : Bytes) : Bytes :=
  chunk 7 (text 1 name ++ text 2 ("." ++ kind.optionsName) ++ number 3 place ++ number 5 type ++
    more)

def optionsFile (before : Bytes) : Bytes :=
  text 1 "o" ++ text 2 "mavsdk.options" ++ text 3 "d" ++
    chunk 5 (text 1 "AsyncType" ++ chunk 2 (text 1 "ASYNC" ++ number 2 0) ++
      chunk 2 (text 1 "SYNC" ++ number 2 1)) ++
    before ++
    extending .methodOptions "async_type" 1000 14 (text 6 ".mavsdk.options.AsyncType") ++
    extending .methodOptions "is_finite" 1001 8 [] ++
    extending .fieldOptions "default_value" 1000 9 [] ++
    extending .fieldOptions "epsilon" 1001 1 []

def flightFile (service : String) (methodOptions fieldOptions : Bytes) : Bytes :=
  text 1 "u" ++ text 3 "o" ++ chunk 4 (text 1 "ArmRequest") ++
    chunk 4 (text 1 "ArmResponse" ++ chunk 2 (text 1 "order" ++ number 3 1 ++ number 5 11 ++
      text 6 ".ArmRequest" ++ chunk 8 fieldOptions)) ++
    chunk 6 (text 1 service ++ chunk 2 (text 1 "Arm" ++ text 2 ".ArmRequest" ++
      text 3 ".ArmResponse" ++ chunk 4 methodOptions))

end Encoded

namespace FileModel

open Encoded

def flightOptions : Bytes := number 1000 1 ++ number 1000 0 ++ number 1001 1

def flightFiles : List Bytes :=
  [descriptorFile, optionsFile [], flightFile "S" flightOptions (text 1000 "7")]

def extensionField (kind : DescriptorKind) (name : String) (place code : Int) (type : ResolvedType)
    (typeName : Option String) : PoolField where
  descriptor := {
    name, extendee := some ("." ++ kind.optionsName), number := place, type := some code, typeName }
  owner := kind.optionsName
  type
  isExtension := true

def asyncTypeField : PoolField :=
  extensionField .methodOptions "async_type" 1000 14 (.enum "mavsdk.options.AsyncType")
    (some ".mavsdk.options.AsyncType")

def isFiniteField : PoolField :=
  extensionField .methodOptions "is_finite" 1001 8 (.scalar .bool) none

def defaultValueField : PoolField :=
  extensionField .fieldOptions "default_value" 1000 9 (.scalar .string) none

def epsilonField : PoolField :=
  extensionField .fieldOptions "epsilon" 1001 1 (.scalar .double) none

theorem flightFiles_options :
    ∃ (pool : Pool) (custom : pool.CustomOptions) (file : FileDescriptor) (model : FileModel),
      Pool.decode? (FileSet.encode ⟨flightFiles⟩) = some pool ∧
      FileDescriptor.decode? (flightFile "S" flightOptions (text 1000 "7")) = some file ∧
      build file ⟨"org.flight", "Flight"⟩ {} (OptionLookup.ofRawFiles flightFiles) = .ok model ∧
      pool.RecordsDecide "S" ⟨"u", "S.Arm", .methodOptions, flightOptions⟩
        [(1000, .varint 1), (1000, .varint 0), (1001, .varint 1)] custom.asyncType ∧
      pool.RecordsDecide "ArmResponse" ⟨"u", "ArmResponse.order", .fieldOptions, text 1000 "7"⟩
        [(1000, .chunk (Bytes.ofText "7"))] custom.defaultValue ∧
      List.Forall₂ (fun entry method => ∃ records,
          Wire.records? entry.2.1.options = some records ∧
            MethodCarries pool custom file entry.1.1 entry.2.1 records method.options)
        file.declaredMethods model.methods ∧
      List.Forall₂ (StructCarries pool custom file) (file.messagesOf .response)
        model.responses := by
  have checked : (Pool.decode? (FileSet.encode ⟨flightFiles⟩)).any (fun pool => decide (
      pool.Declares .methodOptions "mavsdk.options.async_type" asyncTypeField ∧
      pool.Declares .methodOptions "mavsdk.options.is_finite" isFiniteField ∧
      pool.Declares .fieldOptions "mavsdk.options.default_value" defaultValueField ∧
      pool.Declares .fieldOptions "mavsdk.options.epsilon" epsilonField ∧
      pool.RecordsDecide "S" ⟨"u", "S.Arm", .methodOptions, flightOptions⟩
        [(1000, .varint 1), (1000, .varint 0), (1001, .varint 1)] asyncTypeField ∧
      pool.RecordsDecide "ArmResponse" ⟨"u", "ArmResponse.order", .fieldOptions, text 1000 "7"⟩
        [(1000, .chunk (Bytes.ofText "7"))] defaultValueField)) = true := by
    decide +kernel
  have builds : (FileDescriptor.decode? (flightFile "S" flightOptions (text 1000 "7"))).any
      (fun file => (build file ⟨"org.flight", "Flight"⟩ {}
        (OptionLookup.ofRawFiles flightFiles)).isOk) = true := by
    decide +kernel
  obtain ⟨pool, pooled, facts⟩ := (Option.any_eq_true ..).mp checked
  obtain ⟨asyncType, isFinite, defaultValue, epsilon, decides, fieldDecides⟩ :=
    of_decide_eq_true facts
  obtain ⟨file, decoded, succeeds⟩ := (Option.any_eq_true ..).mp builds
  let custom : pool.CustomOptions :=
    ⟨asyncTypeField, isFiniteField, defaultValueField, epsilonField, asyncType, ⟨_, rfl⟩, isFinite,
      rfl, defaultValue, rfl, epsilon, rfl⟩
  cases built : build file ⟨"org.flight", "Flight"⟩ {} (OptionLookup.ofRawFiles flightFiles) with
  | error failure => simp [built, Except.isOk, Except.toBool] at succeeds
  | ok model =>
      obtain ⟨methods, _, _, responses⟩ :=
        build_options pooled custom (by simp [flightFiles]) decoded built
      exact ⟨pool, custom, file, model, pooled, decoded, built, decides, fieldDecides, methods,
        responses⟩

def builtOptions (raws : List Bytes) : Option (List MethodOptions × List FieldOptions) := do
  let raw ← raws.getLast?
  let file ← FileDescriptor.decode? raw
  let model ← (build file ⟨"", ""⟩ {} (OptionLookup.ofRawFiles raws)).toOption
  return (model.methods.map (·.options), model.responses.flatMap fun struct =>
    struct.fields.map fun field => ⟨field.defaultValue, field.epsilon⟩)

def hasExtension (kind : DescriptorKind) (name : String) (fits : ResolvedType → Bool)
    (pool : Pool) : Bool :=
  (pool.extensions.lookup name).any fun field =>
    field.owner == kind.optionsName && !field.descriptor.isRepeated && fits field.type

def lastGiven {α : Type} (reads : Content → Option α) (place : Nat) (options : Bytes) :
    Option (Option α) :=
  (Wire.records? options).map fun records => (contentsOf place records).getLast?.bind reads

def zeroOptions : Bytes := number 1000 0

def dottedFiles : List Bytes :=
  [descriptorFile, optionsFile [], flightFile ".S" zeroOptions []]

def takenFiles : List Bytes :=
  [descriptorFile, optionsFile (extending .methodOptions "kind" 1000 5 []),
    flightFile "S" zeroOptions []]

def mapOptions : Bytes := number 1100 3 ++ zeroOptions

def mapFiles : List Bytes :=
  let part (name : String) (place : Nat) :=
    Wire.chunk 2 (text 1 name ++ number 3 place ++ number 5 5)
  let entry := text 1 "E" ++ part "key" 1 ++ part "value" 2 ++ Wire.chunk 7 (number 7 1)
  [descriptorFile ++ optionsMessage "MessageOptions",
    optionsFile (Wire.chunk 4 (text 1 "H" ++ Wire.chunk 3 entry) ++
      extending .methodOptions "map" 1100 11 (number 4 3 ++ text 6 ".mavsdk.options.H.E")),
    flightFile "S" mapOptions []]

def namedOptions : Bytes :=
  Wire.chunk 999 (Wire.chunk 2 (text 1 "mavsdk.options.async_type" ++ number 2 1) ++ text 3 "SYNC")

def namedFiles : List Bytes :=
  [descriptorFile, optionsFile [], flightFile "S" namedOptions []]

/-- Where a name has a leading dot, where a number is taken, where a map is not given as bytes and
where an option is given by name, the last record does not decide. -/
theorem records_overruled :
    (([dottedFiles, takenFiles, mapFiles, namedFiles].all fun raws =>
      (Pool.decode? (FileSet.encode ⟨raws⟩)).any fun pool =>
        hasExtension .methodOptions "mavsdk.options.async_type"
          (· == .enum "mavsdk.options.AsyncType") pool &&
        hasExtension .methodOptions "mavsdk.options.is_finite" (· == .scalar .bool) pool &&
        hasExtension .fieldOptions "mavsdk.options.default_value" (· == .scalar .string) pool &&
        hasExtension .fieldOptions "mavsdk.options.epsilon" (· == .scalar .double) pool) = true) ∧
    (lastGiven Content.choice? 1000 zeroOptions = some (some 0) ∧
      builtOptions dottedFiles = some ([⟨.both, false⟩], [{}]) ∧
      builtOptions takenFiles = some ([⟨.both, false⟩], [{}])) ∧
    (lastGiven Content.choice? 1000 mapOptions = some (some 0) ∧
      builtOptions mapFiles = some ([⟨.both, false⟩], [{}])) ∧
    (lastGiven Content.choice? 1000 namedOptions = some none ∧
      builtOptions namedFiles = some ([⟨.sync, false⟩], [{}])) := by
  decide +kernel

end FileModel
end BindingPress
