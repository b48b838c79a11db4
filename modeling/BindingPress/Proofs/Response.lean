import BindingPress.Proofs.Generation
import BindingPress.Proofs.Interpretation

/-!
The answer to a request. What its files are generated with is read from its bytes and from the files
that it refers to. The answer is what generation gives, and its encoding holds an error or files.
-/

namespace BindingPress

open Wire (contentsOf)

namespace Response

/-- The parts of an encoded answer: the error has the number 1, and every file the number 15. -/
def parts (error : Option String) (files : List OutputFile) : List (Nat × Bytes) :=
  error.toList.map (fun text => (1, Bytes.ofText text)) ++ files.map fun file => (15, file.encode)

theorem encode_eq (response : Response) :
    response.encode = (parts response.error? response.files).flatMap fun part =>
      Wire.chunk part.1 part.2 := by
  cases response with
  | failed message => simp [encode, parts, error?, files]
  | generated outputs => simp [encode, parts, error?, files, List.flatMap_map]

theorem parts_numbered {error : Option String} {files : List OutputFile} {part : Nat × Bytes}
    (member : part ∈ parts error files) : 0 < part.1 ∧ part.1 * 8 + 2 < Wire.keyLimit := by
  rw [parts, List.mem_append, List.mem_map, List.mem_map] at member
  rcases member with ⟨text, _, rfl⟩ | ⟨file, _, rfl⟩
  · simp [Wire.keyLimit]
  · simp [Wire.keyLimit]

structure Holds (response : Response) (error : Option String) (files : List OutputFile) : Prop where
  failure : response.error? = error
  outputs : response.files = files
  encoded : ∀ records, Wire.records? response.encode = some records ↔
    (∀ part ∈ parts error files, part.2.length < Wire.sizeLimit) ∧
      records = (parts error files).map fun part => (part.1, .chunk part.2)

theorem holds (response : Response) : response.Holds response.error? response.files where
  failure := rfl
  outputs := rfl
  encoded records := by
    rw [encode_eq]
    exact Wire.records?_chunks fun part member => parts_numbered member

theorem contentsOf_parts_error (files : List OutputFile) :
    contentsOf 1 ((parts none files).map fun part => (part.1, .chunk part.2)) = [] := by
  simp [contentsOf, parts]

theorem contentsOf_parts_files (error : Option String) :
    contentsOf 15 ((parts error []).map fun part => (part.1, .chunk part.2)) = [] := by
  simp [contentsOf, parts]

theorem encode_exclusive (response : Response) {records : List Wire.Record}
    (read : Wire.records? response.encode = some records) :
    contentsOf 1 records = [] ∨ contentsOf 15 records = [] := by
  obtain ⟨_, rfl⟩ := (response.holds.encoded records).mp read
  cases response with
  | failed message => exact .inr (contentsOf_parts_files _)
  | generated files => exact .inl (contentsOf_parts_error files)

end Response

section Loading

variable (source : FileSource) (bytes : Bytes) (environment : Option String) (wording : Wording)

/-- The generator has the parameters and the options of a request, and the settings and templates
that these parameters lead to. -/
structure Loads (generator : Generator) (request : Request) : Prop where
  decoded : Request.decode? bytes = some request
  parameters : Parameters.parse request.parameter environment = .ok generator.parameters
  settings : Settings.load source generator.parameters.initialismsPath
    generator.parameters.conversionsPath wording = .ok generator.settings
  templates : ∃ library, Template.Library.load source generator.parameters.templatePath
      ⟨generator.parameters.lstripBlocks, generator.parameters.trimBlocks⟩ wording = .ok library ∧
    generator.renderer = fun template context => library.render template context.view wording
  options : generator.options = OptionLookup.ofRequest bytes

inductive LoadFails : Error → Prop
  | request : Request.decode? bytes = none → LoadFails (.requestMalformed wording.request)
  | parameters {request : Request} {error : Error} : Request.decode? bytes = some request →
      Parameters.parse request.parameter environment = .error error → LoadFails error
  | settings {request : Request} {parameters : Parameters} {error : Error} :
      Request.decode? bytes = some request →
      Parameters.parse request.parameter environment = .ok parameters →
      Settings.load source parameters.initialismsPath parameters.conversionsPath wording =
        .error error →
      LoadFails error
  | templates {request : Request} {parameters : Parameters} {settings : Settings} {error : Error} :
      Request.decode? bytes = some request →
      Parameters.parse request.parameter environment = .ok parameters →
      Settings.load source parameters.initialismsPath parameters.conversionsPath wording =
        .ok settings →
      Template.Library.load source parameters.templatePath
        ⟨parameters.lstripBlocks, parameters.trimBlocks⟩ wording = .error error →
      LoadFails error

variable {source bytes environment wording}

theorem prepare_eq_ok {generator : Generator} {files : List FileDescriptor} :
    prepare source bytes environment wording = .ok (generator, files) ↔
      ∃ request, Loads source bytes environment wording generator request ∧
        files = request.files := by
  constructor
  · intro prepared
    cases decoded : Request.decode? bytes with
    | none => simp [prepare, decoded, bind, Except.bind] at prepared
    | some request =>
        simp only [prepare, decoded, bind_eq_ok, pure, Except.pure, Except.ok.injEq] at prepared
        obtain ⟨_, rfl, parameters, parsed, settings, loaded, library, listed, same⟩ := prepared
        obtain ⟨rfl, rfl⟩ := Prod.mk.inj same
        exact ⟨request, ⟨decoded, parsed, loaded, ⟨library, listed, rfl⟩, rfl⟩, rfl⟩
  · rintro ⟨request, loads, rfl⟩
    obtain ⟨library, listed, renderer⟩ := loads.templates
    simp only [prepare, loads.decoded, loads.parameters, loads.settings, Parameters.whitespace,
      listed, bind, Except.bind, pure, Except.pure, ← renderer, ← loads.options]

theorem prepare_eq_error {error : Error} :
    prepare source bytes environment wording = .error error ↔
      LoadFails source bytes environment wording error := by
  constructor
  · intro failed
    cases decoded : Request.decode? bytes with
    | none =>
        simp only [prepare, decoded, bind, Except.bind, Except.error.injEq] at failed
        exact failed ▸ .request decoded
    | some request =>
        simp only [prepare, decoded, bind_eq_error, pure, Except.pure, Except.ok.injEq,
          reduceCtorEq, and_false, exists_false, or_false, false_or] at failed
        obtain ⟨_, rfl, unparsed | ⟨parameters, parsed, unloaded | ⟨settings, loaded, unlisted⟩⟩⟩ :=
          failed
        · exact .parameters decoded unparsed
        · exact .settings decoded parsed unloaded
        · exact .templates decoded parsed loaded unlisted
  · intro fails
    cases fails with
    | request decoded => simp [prepare, decoded, bind, Except.bind]
    | parameters decoded unparsed => simp [prepare, decoded, unparsed, bind, Except.bind]
    | settings decoded parsed unloaded =>
        simp [prepare, decoded, parsed, unloaded, bind, Except.bind]
    | templates decoded parsed loaded unlisted =>
        simp [prepare, decoded, parsed, loaded, Parameters.whitespace, unlisted, bind, Except.bind]

theorem loads_or_fails : (∃ generator request,
      Loads source bytes environment wording generator request) ∨
    ∃ error, LoadFails source bytes environment wording error := by
  cases prepared : prepare source bytes environment wording with
  | ok loaded =>
      obtain ⟨request, loads, _⟩ := prepare_eq_ok.mp prepared
      exact .inl ⟨loaded.1, request, loads⟩
  | error error => exact .inr ⟨error, prepare_eq_error.mp prepared⟩

theorem respond_of_loads {generator : Generator} {request : Request}
    (loads : Loads source bytes environment wording generator request) :
    respond source bytes environment wording =
      Response.ofResult (generator.generate request.files) := by
  have prepared := prepare_eq_ok.mpr ⟨request, loads, rfl⟩
  simp only [respond, run, prepared, bind, Except.bind]

theorem respond_of_loadFails {error : Error}
    (fails : LoadFails source bytes environment wording error) :
    respond source bytes environment wording = .failed error.message := by
  have prepared := prepare_eq_error.mpr fails
  simp only [respond, run, prepared, bind, Except.bind, Response.ofResult]

end Loading

/-- A run is all or nothing, file by file, and the answer to a request holds either the outputs for
its files or the error. -/
theorem generate_allOrNothing (generator : Generator) :
    (∀ files, (∃ outputs, generator.generate files = .ok outputs) ↔
      ∀ file ∈ files, generator.skips file = false →
        ∃ content, generator.Renders file content) ∧
    (∀ files outputs, generator.generate files = .ok outputs →
      List.Forall₂ (fun file output => generator.generate [file] = .ok [output] ∧
          output.name = generator.outputName file ∧ generator.Renders file output.content)
        (files.filter fun file => !generator.skips file) outputs) ∧
    (∀ front back, generator.generate (front ++ back) = do
      let outputs ← generator.generate front
      let others ← generator.generate back
      return outputs ++ others) ∧
    (∀ files error, generator.generate files = .error error ↔
      ∃ before file after, files = before ++ file :: after ∧
        (∀ earlier ∈ before, generator.skips earlier = false →
          ∃ content, generator.Renders earlier content) ∧
        generator.skips file = false ∧ generator.FailsWith file error) ∧
    (∀ before file after, generator.skips file = true →
      generator.generate (before ++ file :: after) = generator.generate (before ++ after)) ∧
    (∀ source bytes environment wording request,
      Loads source bytes environment wording generator request →
        (∀ outputs, generator.generate request.files = .ok outputs →
          (respond source bytes environment wording).Holds none outputs) ∧
        (∀ error, generator.generate request.files = .error error →
          (respond source bytes environment wording).Holds (some error.message) [])) ∧
    (∀ source bytes environment wording,
      (∃ generator request, Loads source bytes environment wording generator request) ∨
        ∃ error, LoadFails source bytes environment wording error ∧
          (respond source bytes environment wording).Holds (some error.message) []) ∧
    (∀ source bytes environment wording records,
      Wire.records? (respond source bytes environment wording).encode = some records →
        contentsOf 1 records = [] ∨ contentsOf 15 records = []) := by
  refine ⟨generator.generate_succeeds_iff, fun files outputs => generator.generate_eq_each,
    generator.generate_append, generator.generate_eq_error,
    fun before file after => generator.generate_dropSkipped before after file, ?_, ?_, ?_⟩
  · intro source bytes environment wording request loads
    rw [respond_of_loads loads]
    constructor
    · intro outputs generated
      rw [generated]
      exact Response.holds (.generated outputs)
    · intro error failed
      rw [failed]
      exact Response.holds (.failed error.message)
  · intro source bytes environment wording
    refine loads_or_fails.imp_right fun ⟨error, fails⟩ => ⟨error, fails, ?_⟩
    rw [respond_of_loadFails fails]
    exact Response.holds (.failed error.message)
  · intro source bytes environment wording records read
    exact Response.encode_exclusive _ read

def surveyFile (name package : String) (fields : Bytes) : Bytes :=
  Wire.chunk 1 (Bytes.ofText name) ++ Wire.chunk 2 (Bytes.ofText package) ++
    Wire.chunk 4 (Wire.chunk 1 (Bytes.ofText "Fix") ++ fields)

def surveyField (type : Bytes) : Bytes :=
  Wire.chunk 2 (Wire.chunk 1 (Bytes.ofText "hdop") ++ [0x18, 1] ++ type)

/-- The field of the first file has no type, but that file is skipped. The second file renders. There
is no conversion for the field of the third. -/
def surveyRequest : Bytes :=
  Wire.chunk 2 (Bytes.ofText "file_ext=h,template_path=t") ++
    Wire.chunk 15 (surveyFile "google.proto" "google" (surveyField [])) ++
    Wire.chunk 15 (surveyFile "info.proto" "demo" []) ++
    Wire.chunk 15 (surveyFile "gps.proto" "demo" (surveyField [0x28, 5]))

def surveyTree : FileTree :=
  .directory [("t", .directory [("file.j2", .file (Bytes.ofText "done")),
    ("initialisms", .file []), ("type_conversions", .file (Bytes.ofText "\x7b\x7d"))])]

theorem surveyRequest_refused : ∃ generator request,
    Loads surveyTree.source surveyRequest none {} generator request ∧
      request.files.map (·.name) = ["google.proto", "info.proto", "gps.proto"] ∧
      generator.generate request.files = .error (.conversionMissing "TYPE_INT32" "hdop") ∧
      (respond surveyTree.source surveyRequest none {}).Holds
        (some "Type resolution error: No conversion for TYPE_INT32 (field 'hdop')") [] := by
  have named : (prepare surveyTree.source surveyRequest none {}).toOption.map
      (fun prepared => prepared.2.map (·.name)) =
        some ["google.proto", "info.proto", "gps.proto"] := by
    decide +kernel
  have failed : run surveyTree.source surveyRequest none {} =
      .error (.conversionMissing "TYPE_INT32" "hdop") := by
    decide +kernel
  cases prepared : prepare surveyTree.source surveyRequest none {} with
  | error error => simp [prepared, Except.toOption] at named
  | ok loaded =>
      obtain ⟨generator, files⟩ := loaded
      obtain ⟨request, loads, rfl⟩ := prepare_eq_ok.mp prepared
      simp only [prepared, Except.toOption, Option.map_some, Option.some.injEq] at named
      simp only [run, prepared, bind, Except.bind] at failed
      have answers := (generate_allOrNothing generator).2.2.2.2.2.1 _ _ _ _ _ loads
      exact ⟨generator, request, loads, named, failed, answers.2 _ failed⟩

end BindingPress
