import BindingPress.FileSource
import BindingPress.Template.Layout
import BindingPress.Template.Render

/-! A directory of templates. -/

namespace BindingPress.Template

structure Library where
  templates : List (String × List Node)

namespace Library

def inclusionLimit : Nat := 10000

/-- Renders a template; includes are followed down to a depth. -/
def renderWithin (library : Library) : Nat → Inclusion
  | 0, _, _ => .error {}
  | depth + 1, name, environment =>
      match library.templates.lookup name with
      | none => .error {}
      | some nodes => (renderNodes (renderWithin library depth) environment nodes).map (·.1)

def render (library : Library) (template : String) (context : Value) (wording : Wording := {}) :
    Except Error String :=
  match library.renderWithin inclusionLimit template ⟨[{}], context⟩ with
  | .ok written => .ok (String.ofList written)
  | .error failure => .error (.renderingFailed template wording.rendering failure.cause)

def entry? (control : WhitespaceControl) (name : String) (text : String) :
    Option (String × List Node) :=
  (parse? (control.apply text.toList)).map (name, ·)

/-- Loads all templates of a directory. Files that are not text are no templates; all others have
to be readable. -/
def load (files : FileSource) (directory : String) (control : WhitespaceControl)
    (wording : Wording := {}) : Except Error Library :=
  match files.list directory with
  | .error cause => .error (.templatesUnreadable directory cause)
  | .ok entries =>
      let texts := entries.filterMap fun (name, content) => content.text?.map (name, ·)
      match texts.mapM fun (name, text) => entry? control name text with
      | some templates => .ok ⟨templates⟩
      | none => .error (.templatesMalformed directory wording.templates)

end Library
end BindingPress.Template
