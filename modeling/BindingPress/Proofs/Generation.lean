import BindingPress.Generation
import BindingPress.Proofs.Traversal

/-!
A run is all or nothing. It succeeds when every file that is not skipped builds and renders, each
on its own, and else ends with the error of the first that does not.
-/

namespace BindingPress

namespace Generator

def Renders (generator : Generator) (file : FileDescriptor) (content : String) : Prop :=
  ∃ model, generator.model file = .ok model ∧
    generator.renderer generator.parameters.templateName model.renderContext = .ok content

/-- The file does not build, or else its context is not rendered, with this error. -/
def FailsWith (generator : Generator) (file : FileDescriptor) (error : Error) : Prop :=
  generator.model file = .error error ∨
    ∃ model, generator.model file = .ok model ∧
      generator.renderer generator.parameters.templateName model.renderContext = .error error

def wanted (generator : Generator) (files : List FileDescriptor) : List FileDescriptor :=
  files.filter fun file => !generator.skips file

variable (generator : Generator)

theorem generateFile_eq_ok (file : FileDescriptor) (output : OutputFile) :
    generator.generateFile file = .ok output ↔
      output.name = generator.outputName file ∧ generator.Renders file output.content := by
  simp only [generateFile, bind_eq_ok, pure, Except.pure, Except.ok.injEq, Renders]
  constructor
  · rintro ⟨model, built, content, rendered, rfl⟩
    exact ⟨rfl, model, built, rendered⟩
  · rintro ⟨named, model, built, rendered⟩
    exact ⟨model, built, output.content, rendered, by rw [← named]⟩

theorem generateFile_eq_error (file : FileDescriptor) (error : Error) :
    generator.generateFile file = .error error ↔ generator.FailsWith file error := by
  simp only [generateFile, bind_eq_error, pure, Except.pure, reduceCtorEq, and_false,
    exists_false, or_false, FailsWith]

theorem generateFile_succeeds_iff (file : FileDescriptor) :
    (∃ output, generator.generateFile file = .ok output) ↔
      ∃ content, generator.Renders file content := by
  simp only [generateFile_eq_ok]
  constructor
  · rintro ⟨output, named, renders⟩
    exact ⟨output.content, renders⟩
  · rintro ⟨content, renders⟩
    exact ⟨⟨generator.outputName file, content⟩, rfl, renders⟩

theorem mem_wanted {file : FileDescriptor} {files : List FileDescriptor} :
    file ∈ generator.wanted files ↔ file ∈ files ∧ generator.skips file = false := by
  simp [wanted]

theorem generate_eq_tryMapFrom (start : Nat) (files : List FileDescriptor) :
    generator.generate files =
      tryMapFrom (fun _ => generator.generateFile) start (generator.wanted files) := by
  induction files generalizing start with
  | nil => rfl
  | cons file rest ih =>
      cases skipped : generator.skips file with
      | true =>
          have passed : generator.wanted (file :: rest) = generator.wanted rest := by
            simp [wanted, skipped]
          rw [generate, if_pos skipped, passed]
          exact ih start
      | false =>
          have kept : generator.wanted (file :: rest) = file :: generator.wanted rest := by
            simp [wanted, skipped]
          rw [generate, if_neg (by simp [skipped]), kept, tryMapFrom, ih (start + 1)]

theorem generate_eq_ok (files : List FileDescriptor) (outputs : List OutputFile) :
    generator.generate files = .ok outputs ↔
      List.Forall₂ (fun file output => generator.generateFile file = .ok output)
        (generator.wanted files) outputs := by
  rw [generator.generate_eq_tryMapFrom 0, tryMapFrom_eq_ok]
  conv_rhs => rw [← List.zipIdx_map_fst 0 (generator.wanted files), List.forall₂_map_left_iff]

theorem generate_succeeds_iff (files : List FileDescriptor) :
    (∃ outputs, generator.generate files = .ok outputs) ↔
      ∀ file ∈ files, generator.skips file = false → ∃ content, generator.Renders file content := by
  simp only [generator.generate_eq_tryMapFrom 0, tryMapFrom_succeeds_iff,
    generateFile_succeeds_iff]
  constructor
  · intro succeeded file member unskipped
    have kept : file ∈ generator.wanted files := generator.mem_wanted.mpr ⟨member, unskipped⟩
    rw [← List.zipIdx_map_fst 0 (generator.wanted files), List.mem_map] at kept
    obtain ⟨entry, placed, rfl⟩ := kept
    exact succeeded entry placed
  · intro succeeded entry placed
    have kept := generator.mem_wanted.mp (List.fst_mem_of_mem_zipIdx placed)
    exact succeeded entry.1 kept.1 kept.2

theorem generate_append (front back : List FileDescriptor) :
    generator.generate (front ++ back) = (do
      let outputs ← generator.generate front
      let others ← generator.generate back
      return outputs ++ others) := by
  have parts : generator.wanted (front ++ back) = generator.wanted front ++ generator.wanted back :=
    List.filter_append front back
  rw [generator.generate_eq_tryMapFrom 0 (front ++ back), parts, tryMapFrom_append,
    ← generator.generate_eq_tryMapFrom, ← generator.generate_eq_tryMapFrom]

/-- The error of the first file that fails is reported, whatever comes after that file. -/
theorem generate_eq_error (files : List FileDescriptor) (error : Error) :
    generator.generate files = .error error ↔
      ∃ before file after, files = before ++ file :: after ∧
        (∀ earlier ∈ before, generator.skips earlier = false →
          ∃ content, generator.Renders earlier content) ∧
        generator.skips file = false ∧ generator.FailsWith file error := by
  rw [generator.generate_eq_tryMapFrom 0, tryMapFrom_eq_error]
  simp only [generateFile_eq_error]
  constructor
  · rintro ⟨before, file, after, split, succeeded, failed⟩
    obtain ⟨front, back, rfl, frontKept, backKept⟩ := List.filter_eq_append_iff.mp split
    obtain ⟨passed, rest, rfl, skipped, unskipped, restKept⟩ := List.filter_eq_cons_iff.mp backKept
    refine ⟨front ++ passed, file, rest, by simp, ?_, by simpa using unskipped, failed⟩
    have finished : ∃ outputs, generator.generate front = .ok outputs := by
      rw [generator.generate_eq_tryMapFrom 0, wanted, frontKept, tryMapFrom_succeeds_iff]
      exact succeeded
    intro earlier member kept
    rcases List.mem_append.mp member with member | member
    · exact (generator.generate_succeeds_iff front).mp finished earlier member kept
    · have contrary := skipped earlier member
      simp [kept] at contrary
  · rintro ⟨before, file, after, rfl, succeeded, unskipped, failed⟩
    have finished := (generator.generate_succeeds_iff before).mpr succeeded
    rw [generator.generate_eq_tryMapFrom 0, tryMapFrom_succeeds_iff] at finished
    exact ⟨generator.wanted before, file, generator.wanted after,
      by simp [wanted, unskipped], finished, failed⟩

theorem generate_singleton (file : FileDescriptor) (output : OutputFile)
    (unskipped : generator.skips file = false) :
    generator.generate [file] = .ok [output] ↔ generator.generateFile file = .ok output := by
  have kept : generator.wanted [file] = [file] := by simp [wanted, unskipped]
  rw [generate_eq_ok, kept]
  simp

theorem generate_dropSkipped (before after : List FileDescriptor) (file : FileDescriptor)
    (skipped : generator.skips file = true) :
    generator.generate (before ++ file :: after) = generator.generate (before ++ after) := by
  have same : generator.wanted (before ++ file :: after) = generator.wanted (before ++ after) := by
    simp [wanted, skipped]
  rw [generator.generate_eq_tryMapFrom 0, same, ← generator.generate_eq_tryMapFrom]

theorem generate_eq_each {files : List FileDescriptor} {outputs : List OutputFile}
    (generated : generator.generate files = .ok outputs) :
    List.Forall₂ (fun file output => generator.generate [file] = .ok [output] ∧
        output.name = generator.outputName file ∧ generator.Renders file output.content)
      (generator.wanted files) outputs := by
  rw [generate_eq_ok] at generated
  have unskipped : ∀ file ∈ generator.wanted files, generator.skips file = false :=
    fun file member => (generator.mem_wanted.mp member).2
  have paired := List.forall₂_and_left (generator.wanted files) outputs |>.mpr
    ⟨unskipped, generated⟩
  refine paired.imp fun file output ⟨kept, finished⟩ => ⟨?_, ?_⟩
  · exact (generator.generate_singleton file output kept).mpr finished
  · exact (generator.generateFile_eq_ok file output).mp finished

end Generator
end BindingPress
