import BindingPress.Pool.Options
import BindingPress.Proofs.GivenOptions
import BindingPress.Proofs.LastEntry
import BindingPress.Proofs.RawFiles
import Mathlib.Data.List.Nodup
import Mathlib.Data.List.Pairwise

/-!
What holds of a pool that could be made: it has the very files that it was made of, full names lead
to the declarations that have them, and the options of every declaration can be read.
-/

namespace BindingPress

section Search

variable {α : Type} {elements : List α}

theorem find?_eq_some_of_unique {accepts : α → Bool} {element : α} (member : element ∈ elements)
    (accepted : accepts element = true)
    (unique : ∀ other ∈ elements, accepts other = true → other = element) :
    elements.find? accepts = some element := by
  rw [List.find?_eq_findSome?_guard]
  refine findSome?_eq_some_of_unique ⟨element, member, by simp [accepted]⟩ ?_
  intro other among result same
  obtain ⟨rfl, fits⟩ := Option.guard_eq_some_iff.mp same
  exact unique _ among fits

theorem find?_named {name : α → String} {scope : String}
    (distinct : (elements.map fun element => qualified scope (name element)).Nodup) {element : α}
    (member : element ∈ elements) :
    (elements.find? fun other => name other == name element) = some element := by
  refine find?_eq_some_of_unique member (by simp) fun other among same => ?_
  have sameName : name other = name element := by simpa using same
  exact List.inj_on_of_nodup_map distinct among member (by rw [sameName])

theorem source_unique {f : α → List β} (distinct : (elements.flatMap f).Nodup) {first second : α}
    (firstMember : first ∈ elements) (secondMember : second ∈ elements) {shared : β}
    (fromFirst : shared ∈ f first) (fromSecond : shared ∈ f second) : first = second := by
  by_contra different
  have symmetric : Std.Symm (Function.onFun List.Disjoint f) :=
    ⟨fun _ _ disjoint _ inSecond inFirst => disjoint inFirst inSecond⟩
  have apart : Function.onFun List.Disjoint f first second :=
    (List.nodup_flatMap.mp distinct).2.forall firstMember secondMember different
  exact apart fromFirst fromSecond

end Search

namespace FileDescriptor

variable {file : FileDescriptor}

def declaredNames (file : FileDescriptor) : List String :=
  (file.allMessages.flatMap fun (scope, message) => (messageSymbols scope message).map (·.1)) ++
    (file.allEnums.flatMap fun (scope, enum) => (enumSymbols scope enum).map (·.1)) ++
    (file.allExtensions.map fun (scope, field) => qualified scope field.name) ++
    (file.allServices.flatMap fun (scope, service) => (serviceSymbols scope service).map (·.1))

theorem declarations_map_name (file : FileDescriptor) :
    file.declarations.map (·.name) = file.declaredNames := by
  simp [declarations, declaredNames, List.map_flatMap, Function.comp_def]

theorem mem_allServices {service : ServiceDescriptor} (member : service ∈ file.services) :
    (qualified file.package service.name, service) ∈ file.allServices :=
  List.mem_map.mpr ⟨service, member, rfl⟩

theorem mem_allMessages {message : MessageDescriptor} (member : message ∈ file.messages) :
    (qualified file.package message.name, message) ∈ file.allMessages := by
  have listed : ∀ messages : List MessageDescriptor, message ∈ messages →
      (qualified file.package message.name, message) ∈ messagesWithin file.package messages := by
    intro messages among
    induction messages with
    | nil => simp at among
    | cons first messages ih =>
        rw [messagesWithin, List.mem_append]
        rcases List.mem_cons.mp among with rfl | later
        · left
          cases message
          exact List.mem_cons_self
        · exact .inr (ih later)
  exact listed file.messages member

def serviceNames (entry : String × ServiceDescriptor) : List String :=
  (serviceSymbols entry.1 entry.2).map (·.1)

def messageNames (entry : String × MessageDescriptor) : List String :=
  (messageSymbols entry.1 entry.2).map (·.1)

def methodSite (file : FileDescriptor) (service : ServiceDescriptor) (method : MethodDescriptor) :
    OptionSite where
  file := file.name
  scope := qualified (qualified file.package service.name) method.name
  kind := .methodOptions
  options := method.options

def fieldSite (file : FileDescriptor) (message : MessageDescriptor) (field : FieldDescriptor) :
    OptionSite where
  file := file.name
  scope := qualified (qualified file.package message.name) field.name
  kind := .fieldOptions
  options := field.options

theorem methodSite_mem {service : ServiceDescriptor} (member : service ∈ file.services)
    {method : MethodDescriptor} (within : method ∈ service.methods) :
    file.methodSite service method ∈ file.optionSites := by
  refine List.mem_append_right _ (List.mem_flatMap.mpr ⟨_, mem_allServices member, ?_⟩)
  exact List.mem_cons_of_mem _ (List.mem_map.mpr ⟨method, within, rfl⟩)

theorem fieldSite_mem {message : MessageDescriptor} (member : message ∈ file.messages)
    {field : FieldDescriptor} (within : field ∈ message.fields) :
    file.fieldSite message field ∈ file.optionSites := by
  refine List.mem_append_left _ (List.mem_append_left _ (List.mem_append_left _
    (List.mem_cons_of_mem _ (List.mem_flatMap.mpr ⟨_, mem_allMessages member, ?_⟩))))
  exact List.mem_append_left _ (List.mem_append_left _
    (List.mem_cons_of_mem _ (List.mem_map.mpr ⟨field, within, rfl⟩)))

end FileDescriptor

theorem exists_of_mem_mapM {α β : Type} {f : α → Option β} {elements : List α} {results : List β}
    (run : elements.mapM f = some results) {result : β} (member : result ∈ results) :
    ∃ element ∈ elements, f element = some result :=
  Wire.exists_of_mem_right (Wire.mapM_eq_some.mp run) member

namespace FileDescriptor

variable {file : FileDescriptor} {names : Names}

theorem poolFields?_own {fields : List PoolField}
    (resolved : file.poolFields? names = some fields) :
    ∀ field ∈ fields, field.isExtension = false := by
  intro field member
  obtain ⟨parts, run, rfl⟩ := Option.map_eq_some_iff.mp resolved
  obtain ⟨part, among, within⟩ := List.mem_flatten.mp member
  obtain ⟨message, _, inner⟩ := exists_of_mem_mapM run among
  obtain ⟨descriptor, _, typed⟩ := exists_of_mem_mapM inner within
  obtain ⟨type, _, rfl⟩ := Option.map_eq_some_iff.mp typed
  rfl

theorem poolExtensions?_extends {extensions : List (String × PoolField)}
    (resolved : file.poolExtensions? names = some extensions) :
    ∀ entry ∈ extensions, entry.2.isExtension = true ∧
      entry.2.hasPresence = !entry.2.descriptor.isRepeated := by
  intro entry member
  obtain ⟨declared, _, run⟩ := exists_of_mem_mapM resolved member
  obtain ⟨extended, _, following⟩ := Option.bind_eq_some_iff.mp run
  obtain ⟨type, _, same⟩ := Option.bind_eq_some_iff.mp following
  obtain rfl := Option.some.inj same
  exact ⟨rfl, rfl⟩

end FileDescriptor

namespace Pool

/-- The pool is made of the files. -/
structure Made (files : List FileDescriptor) (pool : Pool) : Prop where
  areSound : areSound files = true
  isSound : pool.isSound = true
  sameFiles : pool.files = files
  sameMessages : pool.messages = (ofDeclarations files).messages
  ownFields : ∀ field ∈ pool.fields, field.isExtension = false
  extensions : ∀ entry ∈ pool.extensions, entry.2.isExtension = true ∧
    entry.2.hasPresence = !entry.2.descriptor.isRepeated

variable {files : List FileDescriptor} {pool : Pool}

theorem ofFiles?_made (made : ofFiles? files = some pool) : Made files pool := by
  unfold ofFiles? at made
  split at made
  next areSound =>
    obtain ⟨resolved, isSound⟩ := Option.filter_eq_some_iff.mp made
    obtain ⟨fields, fieldsFound, following⟩ := Option.bind_eq_some_iff.mp resolved
    obtain ⟨extensions, extensionsFound, same⟩ := Option.bind_eq_some_iff.mp following
    obtain rfl := Option.some.inj same
    refine ⟨areSound, isSound, rfl, rfl, ?_, ?_⟩
    · intro field member
      obtain ⟨part, among, within⟩ := List.mem_flatten.mp member
      obtain ⟨file, _, own⟩ := exists_of_mem_mapM fieldsFound among
      exact FileDescriptor.poolFields?_own own field within
    · intro entry member
      obtain ⟨part, among, within⟩ := List.mem_flatten.mp member
      obtain ⟨file, _, extending⟩ := exists_of_mem_mapM extensionsFound among
      exact FileDescriptor.poolExtensions?_extends extending entry within
  next => simp at made

theorem decode?_made {raws : List Bytes} (decoded : decode? (FileSet.encode ⟨raws⟩) = some pool) :
    ∃ files, Made files pool ∧
      List.Forall₂ (fun raw file => FileDescriptor.decode? raw = some file) raws files := by
  obtain ⟨files, read, made⟩ := Option.bind_eq_some_iff.mp decoded
  refine ⟨files, ofFiles?_made made, ?_⟩
  obtain ⟨entries, copied, rfl⟩ := Option.map_eq_some_iff.mp read
  obtain ⟨records, spelled, interpreted⟩ := Wire.readCopying?_eq_some.mp copied
  obtain ⟨_, rfl⟩ := FileSet.records?_encode.mp spelled
  have known : DescriptorKind.schema .fileSet 1 = some (.message .file) := rfl
  have within := Wire.interpret?_messages known interpreted
  rw [FileSet.chunksOf_files] at within
  rw [List.forall₂_map_right_iff]
  refine within.imp fun raw inner found => ?_
  obtain ⟨innerRecords, innerSpelled, innerRead⟩ := found
  exact FileDescriptor.decode?_of_inner innerSpelled innerRead

namespace Made

variable (made : Made files pool)

include made

theorem names_nodup : (files.flatMap FileDescriptor.declaredNames).Nodup := by
  have sound := made.areSound
  simp only [Pool.areSound, hasUniqueNames, Bool.and_eq_true, areDistinct_iff_nodup,
    List.map_flatMap, FileDescriptor.declarations_map_name] at sound
  exact sound.1.2.1

theorem interpret?_succeeds {file : FileDescriptor} (member : file ∈ files) {site : OptionSite}
    (among : site ∈ file.optionSites) : ∃ fields, pool.interpret? site = some fields := by
  have sound := made.isSound
  simp only [Pool.isSound, hasReadableOptions, Bool.and_eq_true, List.all_eq_true, made.sameFiles]
    at sound
  exact Option.isSome_iff_exists.mp (sound.2 file member site among)

variable {file other : FileDescriptor} (member : file ∈ files) (otherMember : other ∈ files)

include member

theorem declaredNames_nodup : file.declaredNames.Nodup :=
  (List.nodup_flatMap.mp made.names_nodup).1 file member

include otherMember

/-- A full name leads to one declaration in one file. -/
theorem declared_once {δ : Type} {entries : FileDescriptor → List (String × δ)}
    {names : String × δ → List String} (named : ∀ entry, entry.1 ∈ names entry)
    (part : ∀ file : FileDescriptor, ((entries file).flatMap names).Sublist file.declaredNames)
    {scope : String} {declared declaredOther : δ} (found : (scope, declared) ∈ entries file)
    (foundOther : (scope, declaredOther) ∈ entries other) :
    other = file ∧ declaredOther = declared := by
  have listed : ∀ source entry, entry ∈ entries source → entry.1 ∈ source.declaredNames :=
    fun source entry among =>
      (part source).subset (List.mem_flatMap.mpr ⟨entry, among, named entry⟩)
  have inFile : scope ∈ file.declaredNames := listed file (scope, declared) found
  have inOther : scope ∈ other.declaredNames := listed other (scope, declaredOther) foundOther
  obtain rfl : other = file :=
    source_unique made.names_nodup otherMember member inOther inFile
  have distinct := (made.declaredNames_nodup member).sublist (part other)
  have same : (scope, declaredOther) = (scope, declared) :=
    source_unique distinct foundOther found (named (scope, declaredOther))
      (named (scope, declared))
  exact ⟨rfl, (Prod.mk.inj same).2⟩

omit otherMember

theorem methodSite?_eq {service : ServiceDescriptor} (declared : service ∈ file.services)
    {method : MethodDescriptor} (within : method ∈ service.methods)
    (undotted : withoutDot (qualified file.package service.name) =
      qualified file.package service.name) :
    pool.methodSite? (qualified file.package service.name) method.name =
      some (file.methodSite service method) := by
  have listed := FileDescriptor.mem_allServices declared
  have part : ∀ file : FileDescriptor,
      (file.allServices.flatMap FileDescriptor.serviceNames).Sublist file.declaredNames :=
    fun file => List.sublist_append_right _ _
  have distinct : (FileDescriptor.serviceNames
      (qualified file.package service.name, service)).Nodup :=
    (List.nodup_flatMap.mp ((made.declaredNames_nodup member).sublist (part file))).1 _ listed
  have found : (service.methods.find? fun other => other.name == method.name) = some method := by
    simp only [FileDescriptor.serviceNames, FileDescriptor.serviceSymbols, List.map_cons,
      List.map_map] at distinct
    exact find?_named distinct.of_cons within
  rw [methodSite?, made.sameFiles, undotted]
  refine findSome?_eq_some_of_unique ⟨file, member, ?_⟩ ?_
  · have reached : file.allServices.lookup (qualified file.package service.name) = some service :=
      lookup_eq_some_of_unique listed fun service' among =>
        (made.declared_once member member (fun entry => List.mem_cons_self) part listed among).2
    simp only [reached, Option.bind_eq_bind, Option.bind_some, found]
    rfl
  · intro other otherMember site reached
    obtain ⟨service', reachedService, following⟩ := Option.bind_eq_some_iff.mp reached
    obtain ⟨rfl, rfl⟩ := made.declared_once member otherMember
      (fun entry => List.mem_cons_self) part listed (mem_of_lookup reachedService)
    obtain ⟨method', reachedMethod, same⟩ := Option.bind_eq_some_iff.mp following
    rw [found] at reachedMethod
    obtain rfl := Option.some.inj reachedMethod
    exact (Option.some.inj same).symm

theorem fieldSite?_eq {message : MessageDescriptor} (declared : message ∈ file.messages)
    {field : FieldDescriptor} (within : field ∈ message.fields)
    (undotted : withoutDot (qualified file.package message.name) =
      qualified file.package message.name) :
    pool.fieldSite? (qualified file.package message.name) field.name =
      some (file.fieldSite message field) := by
  have listed := FileDescriptor.mem_allMessages declared
  have part : ∀ file : FileDescriptor,
      (file.allMessages.flatMap FileDescriptor.messageNames).Sublist file.declaredNames :=
    fun file => ((List.sublist_append_left _ _).trans (List.sublist_append_left _ _)).trans
      (List.sublist_append_left _ _)
  have distinct : (FileDescriptor.messageNames
      (qualified file.package message.name, message)).Nodup :=
    (List.nodup_flatMap.mp ((made.declaredNames_nodup member).sublist (part file))).1 _ listed
  have found : (message.fields.find? fun other => other.name == field.name) = some field := by
    simp only [FileDescriptor.messageNames, FileDescriptor.messageSymbols, List.cons_append,
      List.map_cons, List.map_append, List.map_map] at distinct
    exact find?_named distinct.of_cons.of_append_left within
  have reached : pool.messages.lookup (qualified file.package message.name) =
      some { file := file.name, descriptor := message } := by
    rw [made.sameMessages]
    refine lookup_eq_some_of_unique ?_ ?_
    · exact List.mem_flatMap.mpr ⟨file, member, List.mem_map.mpr ⟨_, listed, rfl⟩⟩
    · intro entry among
      obtain ⟨other, otherMember, inside⟩ := List.mem_flatMap.mp among
      obtain ⟨⟨name, descriptor⟩, listedOther, same⟩ := List.mem_map.mp inside
      obtain ⟨rfl, rfl⟩ := Prod.mk.inj same
      obtain ⟨rfl, rfl⟩ := made.declared_once member otherMember
        (fun entry => List.mem_cons_self) part listed listedOther
      rfl
  rw [fieldSite?, undotted]
  simp only [reached, Option.bind_eq_bind, Option.bind_some, found]
  rfl

end Made
end Pool
end BindingPress
