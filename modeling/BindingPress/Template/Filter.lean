import BindingPress.Error
import BindingPress.Template.Value
import BindingPress.Text.Blank
import BindingPress.Text.CaseMap

/-! The functions that an expression can send a value through. -/

namespace BindingPress.Template

/-- Why a template could not be rendered; only a refusal of a text filter is told apart. -/
structure RenderFailure where
  cause : Option FilterFailure := none
deriving Repr, DecidableEq

def defaultIndentation : Nat := 4

/-- Whether a line is moved: blank lines never are, and the first one only on request. -/
def isIndented (first : Bool) (position : Nat) (line : List Char) : Bool :=
  (0 < position || first) && Text.trim line != []

/-- Moves the lines of a text to the right. -/
def indentText (width : Nat) (first : Bool) (text : List Char) : List Char :=
  let lines := (Text.split '\n' text).mapIdx fun position line =>
    if isIndented first position line then List.replicate width ' ' ++ line else line
  List.intercalate ['\n'] lines

def indent (arguments : List (String × Value)) : Value → Except FilterFailure Value
  | .text text => do
      let width ←
        match arguments.lookup "width" with
        | none => .ok defaultIndentation
        | some (.int width) => if 0 ≤ width then .ok width.toNat else .error .indentWidth
        | some _ => .error .indentWidth
      let first :=
        match arguments.lookup "first" with
        | some (.bool first) => first
        | _ => false
      return .text (String.ofList (indentText width first text.toList))
  | _ => .error .indentOfNoText

/-- Takes a given beginning off a text, once, if it is there. -/
def removePrefix (arguments : List (String × Value)) : Value → Except FilterFailure Value
  | .text text =>
      match arguments.lookup "prefix" with
      | some (.text beginning) =>
          let rest := Text.stripPrefix? beginning.toList text.toList
          .ok (.text ((rest.map String.ofList).getD text))
      | _ => .error .removalArgument
  | _ => .error .removalFromNoText

def mapText (f : List Char → List Char) : Value → Except RenderFailure Value
  | .text text => .ok (.text (String.ofList (f text.toList)))
  | _ => .error {}

def length : Value → Except RenderFailure Value
  | .text text => .ok (.int text.length)
  | .list items => .ok (.int items.length)
  | .object members => .ok (.int members.length)
  | _ => .error {}

def causedBy (result : Except FilterFailure Value) : Except RenderFailure Value :=
  match result with
  | .ok value => .ok value
  | .error failure => .error ⟨some failure⟩

def filter? (name : String) :
    Option (List (String × Value) → Value → Except RenderFailure Value) :=
  match name with
  | "indent" => some fun arguments value => causedBy (indent arguments value)
  | "remove_prefix" => some fun arguments value => causedBy (removePrefix arguments value)
  | "upper" => some fun _ value => mapText Text.upper value
  | "lower" => some fun _ value => mapText Text.lower value
  | "length" => some fun _ value => length value
  | _ => none

end BindingPress.Template
