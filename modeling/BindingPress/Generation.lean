import BindingPress.Descriptor.Decode
import BindingPress.Model.Assembly
import BindingPress.Model.View
import BindingPress.Placement
import BindingPress.Pool.Options
import BindingPress.Response
import BindingPress.Template.Library

/-! Generation: one output file for each input file that is not skipped. The first error ends the
run. -/

namespace BindingPress

abbrev Renderer := String → RenderContext → Except Error String

structure Generator where
  parameters : Parameters
  settings : Settings
  renderer : Renderer
  options : OptionLookup

namespace Generator

def package (generator : Generator) (file : FileDescriptor) : String :=
  file.presentedPackage generator.parameters.isJava

def skips (generator : Generator) (file : FileDescriptor) : Bool :=
  isSkippedPackage (generator.package file)

def presentation (generator : Generator) (file : FileDescriptor) : Presentation where
  package := generator.package file
  pluginName := pluginName file.name generator.settings.initialisms

def model (generator : Generator) (file : FileDescriptor) : Except Error FileModel :=
  FileModel.build file (generator.presentation file) generator.settings generator.options

def outputName (generator : Generator) (file : FileDescriptor) : String :=
  generator.parameters.outputPath (pluginName file.name generator.settings.initialisms)
    (pluginDirectory file.name (generator.package file) generator.parameters.isJava)

def generateFile (generator : Generator) (file : FileDescriptor) : Except Error OutputFile := do
  let model ← generator.model file
  let content ← generator.renderer generator.parameters.templateName model.renderContext
  return { name := generator.outputName file, content }

def generate (generator : Generator) : List FileDescriptor → Except Error (List OutputFile)
  | [] => .ok []
  | file :: rest =>
      if generator.skips file then generator.generate rest
      else do
        let output ← generator.generateFile file
        let others ← generator.generate rest
        return output :: others

end Generator

def Parameters.whitespace (parameters : Parameters) : Template.WhitespaceControl where
  lstripBlocks := parameters.lstripBlocks
  trimBlocks := parameters.trimBlocks

/-- Reads an encoded request and loads what it refers to: what the files are generated with, and the
files. -/
def prepare (files : FileSource) (bytes : Bytes) (environment : Option String)
    (wording : Wording := {}) : Except Error (Generator × List FileDescriptor) := do
  let request ←
    match Request.decode? bytes with
    | some request => .ok request
    | none => .error (.requestMalformed wording.request)
  let parameters ← Parameters.parse request.parameter environment
  let settings ←
    Settings.load files parameters.initialismsPath parameters.conversionsPath wording
  let library ←
    Template.Library.load files parameters.templatePath parameters.whitespace wording
  let renderer : Renderer := fun template context => library.render template context.view wording
  let options := OptionLookup.ofRequest bytes
  return ({ parameters, settings, renderer, options }, request.files)

def run (files : FileSource) (bytes : Bytes) (environment : Option String)
    (wording : Wording := {}) : Except Error (List OutputFile) := do
  let (generator, inputs) ← prepare files bytes environment wording
  generator.generate inputs

/-- Answers an encoded request; an error is part of the answer. -/
def respond (files : FileSource) (bytes : Bytes) (environment : Option String)
    (wording : Wording := {}) : Response :=
  Response.ofResult (run files bytes environment wording)

end BindingPress
