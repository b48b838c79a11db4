import BindingPress.Placement
import BindingPress.Proofs.Assembly

/-!
The names under which a file is presented. They have no part in how its model is built: under other
names the build fails with the same error, or gives the same model with the names and the side of
the calls exchanged.
-/

namespace BindingPress

open Naming (Identifier Initialisms)

section Change

variable {α β γ ε : Type} {f : Nat → α → Except ε β} {g : Nat → α → Except ε γ} {change : β → γ}

theorem tryMapFrom_change (changes : ∀ index element,
      g index element = (f index element).map change) (start : Nat) (elements : List α) :
    tryMapFrom g start elements = (tryMapFrom f start elements).map (List.map change) := by
  induction elements generalizing start with
  | nil => rfl
  | cons element rest ih =>
      rw [tryMapFrom, tryMapFrom, changes, ih]
      cases f start element with
      | error failure => rfl
      | ok first => cases tryMapFrom f (start + 1) rest <;> rfl

end Change

namespace Target

theorem isServer_iff (target : Target) : target.isServer = true ↔ target = .server := by
  cases target <;> simp [isServer]

theorem ofPluginName_eq_server (name : String) :
    ofPluginName name = .server ↔ "server".toList <:+ Text.lower name.toList := by
  rw [ofPluginName, Text.endsWith, ← List.isSuffixOf_iff_suffix]
  split <;> simp_all

end Target

def Method.onSide {requests responses : Nat} (target : Target) (method : Method requests responses) :
    Method requests responses :=
  { method with target }

namespace Assembly

variable (assembly : Assembly)

def onSide (target : Target) : Assembly :=
  { assembly with target }

theorem ofFile_onSide (file : FileDescriptor) (first second : Presentation) (settings : Settings)
    (options : OptionLookup) :
    ofFile file second settings options =
      (ofFile file first settings options).onSide (Target.ofPluginName second.pluginName) :=
  rfl

theorem struct_onSide (target : Target) : (assembly.onSide target).struct = assembly.struct := rfl

theorem method_onSide (target : Target) (requests responses : List Struct) (service : Nat)
    (scope : String) (index : Nat) (descriptor : MethodDescriptor) :
    (assembly.onSide target).method requests responses service scope index descriptor =
      (assembly.method requests responses service scope index descriptor).map
        (Method.onSide target) := by
  unfold Assembly.method
  cases payload requests .request descriptor.name descriptor.inputType with
  | error failure => rfl
  | ok request =>
      cases payload responses .response descriptor.name descriptor.outputType with
      | error failure => rfl
      | ok response => rfl

theorem methods_onSide (target : Target) (requests responses : List Struct)
    (services : List ServiceDescriptor) :
    tryMapIndexed ((assembly.onSide target).serviceMethods requests responses) services =
      (tryMapIndexed (assembly.serviceMethods requests responses) services).map
        (List.map (List.map (Method.onSide target))) := by
  refine tryMapFrom_change (fun index service => ?_) 0 services
  exact tryMapFrom_change (assembly.method_onSide target requests responses _ _) 0 service.methods

end Assembly

namespace FileModel

def presentedAs (model : FileModel) (initialisms : Initialisms) (presentation : Presentation) :
    FileModel :=
  { model with
    package := Identifier.parse presentation.package initialisms
    pluginName := Identifier.parse presentation.pluginName initialisms
    methods := model.methods.map (Method.onSide (Target.ofPluginName presentation.pluginName))
    isServer := (Target.ofPluginName presentation.pluginName).isServer }

/-- What a presentation decides in a model. -/
structure Presents (initialisms : Initialisms) (presentation : Presentation) (model : FileModel) :
    Prop where
  package : model.package = Identifier.parse presentation.package initialisms
  pluginName : model.pluginName = Identifier.parse presentation.pluginName initialisms
  isServer : model.isServer = true ↔ "server".toList <:+ Text.lower presentation.pluginName.toList
  targets : ∀ method ∈ model.methods, method.target = .server ↔ model.isServer = true

theorem presentedAs_presents (model : FileModel) (initialisms : Initialisms)
    (presentation : Presentation) :
    Presents initialisms presentation (model.presentedAs initialisms presentation) where
  package := rfl
  pluginName := rfl
  isServer := by
    rw [← Target.ofPluginName_eq_server, ← Target.isServer_iff]
    rfl
  targets := by
    intro method member
    obtain ⟨given, _, rfl⟩ := List.mem_map.mp member
    exact (Target.isServer_iff _).symm

variable (file : FileDescriptor) (settings : Settings) (options : OptionLookup)

theorem build_presentedAs (first second : Presentation) :
    build file second settings options =
      (build file first settings options).map (·.presentedAs settings.initialisms second) := by
  simp only [build, Assembly.ofFile_onSide file first second, Assembly.struct_onSide]
  cases tryMapIndexed (Assembly.ofFile file first settings options).struct file.messages with
  | error failure => rfl
  | ok all =>
      simp only [bind, Except.bind, Assembly.methods_onSide]
      cases tryMapIndexed ((Assembly.ofFile file first settings options).serviceMethods
          (all.filter (·.role == .request)) (all.filter (·.role == .response))) file.services with
      | error failure => rfl
      | ok methods =>
          simp only [Except.map, presentedAs, pure, Except.pure, List.map_flatten]
          rfl

theorem build_package (presentation : Presentation) (package : String) :
    build file { presentation with package } settings options =
      (build file presentation settings options).map fun model =>
        { model with package := Identifier.parse package settings.initialisms } := by
  rw [build_presentedAs file settings options presentation { presentation with package }]
  conv_rhs => rw [build_presentedAs file settings options presentation presentation]
  cases build file presentation settings options <;> rfl

/-- Two presentations of a file fail with one error, or they give models that differ in the names
presented and in the side of the calls, each decided by its own presentation alone. In particular
a file that is switched to its Java package keeps everything else. -/
theorem build_presentations (first second : Presentation) :
    ((∃ error, build file first settings options = .error error ∧
        build file second settings options = .error error) ∨
      ∃ model revised, build file first settings options = .ok model ∧
        build file second settings options = .ok revised ∧
        revised = model.presentedAs settings.initialisms second ∧
        Presents settings.initialisms first model ∧
        Presents settings.initialisms second revised) ∧
    ∀ pluginName, build file ⟨file.presentedPackage true, pluginName⟩ settings options =
      (build file ⟨file.presentedPackage false, pluginName⟩ settings options).map fun model =>
        { model with
          package := Identifier.parse (file.presentedPackage true) settings.initialisms } := by
  constructor
  · have own := build_presentedAs file settings options first first
    have other := build_presentedAs file settings options first second
    cases outcome : build file first settings options with
    | error error =>
        rw [outcome] at other
        exact .inl ⟨error, rfl, other⟩
    | ok model =>
        rw [outcome] at own other
        have same : model = model.presentedAs settings.initialisms first := Except.ok.inj own
        refine .inr ⟨model, _, rfl, other, rfl, ?_, ?_⟩
        · rw [same]
          exact model.presentedAs_presents settings.initialisms first
        · exact model.presentedAs_presents settings.initialisms second
  · intro pluginName
    exact build_package file settings options ⟨file.presentedPackage false, pluginName⟩ _

end FileModel
end BindingPress
