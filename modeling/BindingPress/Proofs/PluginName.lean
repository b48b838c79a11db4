import BindingPress.Proofs.Assembly
import BindingPress.Proofs.Generation
import BindingPress.Proofs.PlainWords

/-!
The name of an output file and the name that its template sees. Both come from the plugin name, but
the template sees it read once more. They agree exactly when reading it once more changes nothing.
-/

namespace BindingPress

open Naming (Identifier Initialisms Segment IsOrdinary)

def located (directory name extension : String) : String :=
  (if directory = "" then "" else directory ++ "/") ++ name ++ "." ++ extension

theorem located_inj {directory extension first second : String} :
    located directory first extension = located directory second extension ↔ first = second := by
  simp only [located, ← String.toList_inj, String.toList_append, List.append_left_inj,
    List.append_right_inj]

theorem Parameters.outputPath_eq_located {parameters : Parameters}
    (unnamed : parameters.outputFile = none) (name directory : String) :
    parameters.outputPath name directory =
      located directory name (parameters.fileExtension.getD "") := by
  simp only [outputPath, unnamed, located]
  by_cases root : directory = ""
  · simp [root, String.append_assoc]
  · simp [root, String.append_assoc]

def stem (file : String) : String :=
  String.ofList (Text.beforeFirst '.' (Text.afterLast '/' file.toList))

theorem pluginName_eq (file : String) (initialisms : Initialisms) :
    pluginName file initialisms = (Identifier.parse (stem file) initialisms).upperCamel :=
  rfl

theorem upperCamel_pluginName_eq_iff (file : String) (initialisms : Initialisms) :
    (Identifier.parse (pluginName file initialisms) initialisms).upperCamel =
        pluginName file initialisms ↔
      ∀ segment ∈ Naming.segments initialisms (pluginName file initialisms).toList,
        segment.IsSettled := by
  apply Naming.upperCamel_parse_eq_iff
  intro c member
  rw [pluginName_eq] at member
  exact Identifier.not_isSeparator_of_mem_upperCamel member

namespace Generator

variable {generator : Generator} {file : FileDescriptor} {model : FileModel}

theorem model_pluginName (built : generator.model file = .ok model) :
    model.renderContext.pluginName =
      Identifier.parse (pluginName file.name generator.settings.initialisms)
        generator.settings.initialisms := by
  obtain ⟨all, methods, _, _, rfl⟩ := FileModel.build_eq_ok.mp built
  rfl

def pathFor (generator : Generator) (file : FileDescriptor) (name : String) : String :=
  located (pluginDirectory file.name (generator.package file) generator.parameters.isJava) name
    (generator.parameters.fileExtension.getD "")

end Generator

/-- How an output is named, against the plugin name that its template sees. -/
structure IsNamed (generator : Generator) (file : FileDescriptor) (output : OutputFile)
    (seen : Identifier) : Prop where
  path : output.name = generator.pathFor file seen.raw
  agrees_iff : output.name = generator.pathFor file seen.upperCamel ↔
    ∀ segment ∈ Naming.segments generator.settings.initialisms seen.raw.toList, segment.IsSettled
  agrees : ∀ words, (stem file.name).toList = ['_'].intercalate words →
    (∀ word ∈ words, IsOrdinary generator.settings.initialisms word) →
      output.name = generator.pathFor file seen.upperCamel

theorem isNamed_of_model {generator : Generator} {file : FileDescriptor} {output : OutputFile}
    {model : FileModel} (unnamed : generator.parameters.outputFile = none)
    (named : output.name = generator.outputName file) (built : generator.model file = .ok model) :
    IsNamed generator file output model.renderContext.pluginName := by
  rw [Generator.outputName, Parameters.outputPath_eq_located unnamed] at named
  rw [Generator.model_pluginName built]
  have agrees_iff : output.name = generator.pathFor file (Identifier.parse
      (pluginName file.name generator.settings.initialisms)
        generator.settings.initialisms).upperCamel ↔
      ∀ segment ∈ Naming.segments generator.settings.initialisms
        (pluginName file.name generator.settings.initialisms).toList, segment.IsSettled := by
    rw [named, Generator.pathFor, located_inj, eq_comm]
    exact upperCamel_pluginName_eq_iff file.name generator.settings.initialisms
  refine ⟨named, agrees_iff, fun words spelled ordinary => ?_⟩
  rw [agrees_iff, pluginName_eq]
  exact Naming.isSettled_of_ordinary ordinary spelled

/-- Every output is named by the plugin name. The template sees that name again if all its parts are
settled, and only then; it does for every file that is named by ordinary words. -/
theorem generate_names (generator : Generator) (files : List FileDescriptor)
    (outputs : List OutputFile) (unnamed : generator.parameters.outputFile = none)
    (generated : generator.generate files = .ok outputs) :
    List.Forall₂ (fun file output => ∃ model, generator.model file = .ok model ∧
        generator.renderer generator.parameters.templateName model.renderContext =
          .ok output.content ∧
        IsNamed generator file output model.renderContext.pluginName)
      (files.filter fun file => !generator.skips file) outputs := by
  refine (generator.generate_eq_each generated).imp ?_
  rintro file output ⟨_, named, model, built, rendered⟩
  exact ⟨model, built, rendered, isNamed_of_model unnamed named built⟩

def namingGenerator : Generator where
  parameters := {
    outputFile := none, fileExtension := some "h", templatePath := "", templateFile := none
    initialismsFile := none, conversionsFile := none, lstripBlocks := false, trimBlocks := false }
  settings := {}
  renderer := fun _ context => .ok context.pluginName.upperCamel
  options := {}

theorem namingGenerator_generate (name : String) :
    namingGenerator.generate [{ name }] =
      .ok [⟨namingGenerator.outputName { name },
        (Identifier.parse (pluginName name {}) {}).upperCamel⟩] :=
  rfl

theorem cameraServer_names :
    namingGenerator.parameters.outputFile = none ∧
      namingGenerator.generate [{ name := "camera_server.proto" }] =
        .ok [⟨"CameraServer.h", "CameraServer"⟩] ∧
      ∃ model, namingGenerator.model { name := "camera_server.proto" } = .ok model ∧
        "CameraServer.h" = namingGenerator.pathFor { name := "camera_server.proto" }
          model.renderContext.pluginName.upperCamel := by
  have path : namingGenerator.outputName { name := "camera_server.proto" } = "CameraServer.h" := by
    cbv
  have seen : (Identifier.parse (pluginName "camera_server.proto" {}) {}).upperCamel =
      "CameraServer" := by
    cbv
  have generated := namingGenerator_generate "camera_server.proto"
  rw [path, seen] at generated
  refine ⟨rfl, generated, ?_⟩
  obtain ⟨⟨model, built, _, named⟩, _⟩ :=
    List.forall₂_cons.mp (generate_names namingGenerator _ _ rfl generated)
  refine ⟨model, built, named.agrees ["camera".toList, "server".toList] (by cbv) ?_⟩
  intro word member
  rcases List.mem_cons.mp member with rfl | later
  · exact ⟨by decide, rfl⟩
  · rw [List.mem_singleton.mp later]
    exact ⟨by decide, rfl⟩

theorem oneLetterWords_apart :
    namingGenerator.generate [{ name := "demo/a_b.proto" }] = .ok [⟨"demo/AB.h", "Ab"⟩] ∧
      ∃ model, namingGenerator.model { name := "demo/a_b.proto" } = .ok model ∧
        "demo/AB.h" ≠ namingGenerator.pathFor { name := "demo/a_b.proto" }
          model.renderContext.pluginName.upperCamel := by
  have path : namingGenerator.outputName { name := "demo/a_b.proto" } = "demo/AB.h" := by cbv
  have seen : (Identifier.parse (pluginName "demo/a_b.proto" {}) {}).upperCamel = "Ab" := by cbv
  have generated := namingGenerator_generate "demo/a_b.proto"
  rw [path, seen] at generated
  refine ⟨generated, _, rfl, ?_⟩
  show "demo/AB.h" ≠ namingGenerator.pathFor _
    (Identifier.parse (pluginName "demo/a_b.proto" {}) {}).upperCamel
  rw [seen]
  cbv

end BindingPress
