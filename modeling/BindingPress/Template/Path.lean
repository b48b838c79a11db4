import BindingPress.Template.Value
import BindingPress.Text.Parts

/-! Paths: how the text of a path leads to a value. A path is a name and the steps below it, which
are set apart by full stops or stand in square brackets. What stands in brackets is a position, a
quoted name, or a path that leads to one of these. -/

namespace BindingPress.Template

/-- Where in a path a search for brackets is. -/
inductive BracketSearch where
  | outside
  /-- Just after an opening bracket. -/
  | opened
  /-- Between brackets, with how many more were opened and the characters so far, newest first. -/
  | inside (depth : Nat) (content : List Char)

/-- What stands between the outermost square brackets, except for quoted names. -/
def bracketContents : BracketSearch → List Char → List (List Char)
  | _, [] => []
  | .outside, c :: rest => bracketContents (if c = '[' then .opened else .outside) rest
  | .opened, c :: rest =>
      if c = '\x22' || c = '\x27' then bracketContents .outside rest
      else bracketContents (.inside 0 [c]) rest
  | .inside depth content, c :: rest =>
      match c, depth with
      | ']', 0 => content.reverse :: bracketContents .outside rest
      | ']', depth + 1 => bracketContents (.inside depth (c :: content)) rest
      | '[', depth => bracketContents (.inside (depth + 1) (c :: content)) rest
      | c, depth => bracketContents (.inside depth (c :: content)) rest

/-- The paths in the brackets of a path: all that is not a position. -/
def innerPaths (path : List Char) : List (List Char) :=
  (bracketContents .outside path).filter fun content => !content.all Char.isDigit

/-- Replaces the first occurrence of a pattern. Where there is none, the replacement is added. -/
def replaceFirst (pattern replacement : List Char) : List Char → List Char
  | [] => replacement
  | c :: rest =>
      match Text.stripPrefix? pattern (c :: rest) with
      | some following => replacement ++ following
      | none => c :: replaceFirst pattern replacement rest

/-- Writes a path with full stops instead of brackets, and with one kind of quotes. -/
def withoutBrackets (path : List Char) : List Char :=
  let path := Text.replace '[' ['\x27'] ['.', '\x22'] path
  let path := Text.replace '[' ['\x22'] ['.', '\x22'] path
  let path := Text.replace '[' [] ['.'] path
  let path := Text.replace '\x27' [']'] ['\x22'] path
  let path := Text.replace '\x22' [']'] ['\x22'] path
  Text.replace ']' [] [] path

/-- The steps that are set apart by full stops and quotes. A full stop between quotes belongs to its
step, and empty steps do not count. `single` and `double` tell which quotes are open and `step` has
the characters of the step at hand, newest first. -/
def stepsFrom (single double : Bool) (step : List Char) : List Char → List String
  | [] => if step = [] then [] else [String.ofList step.reverse]
  | c :: rest =>
      let nextSingle := single != (c = '\x27')
      let nextDouble := double != (c = '\x22')
      if c = '\x27' || c = '\x22' || (c = '.' && !single && !double) then
        if step = [] then stepsFrom nextSingle nextDouble [] rest
        else String.ofList step.reverse :: stepsFrom nextSingle nextDouble [] rest
      else stepsFrom nextSingle nextDouble (c :: step) rest

def pathSteps (text : List Char) : List String :=
  stepsFrom false false [] text

def pathRoot (path : List Char) : String :=
  String.ofList (Text.beforeFirst '.' path)

/-- What follows the name and the first full stop. -/
def pathTail (path : List Char) : List Char :=
  (path.dropWhile (· != '.')).tail

def Value.step? : Value → Option (List Char)
  | .text content => some ('\x22' :: content.toList ++ ['\x22'])
  | .int value => some (toString value).toList
  | _ => none

/-- The position that a step spells: digits without a leading zero. -/
def index? (segment : String) : Option Nat :=
  match segment.toList with
  | ['0'] => some 0
  | '0' :: _ => none
  | digits => if digits ≠ [] && digits.all Char.isDigit then segment.toNat? else none

/-- The value below another one that steps lead to. -/
def Value.get? : List String → Value → Option Value
  | [], value => some value
  | segment :: rest, .object members => (members.lookup segment).bind (Value.get? rest)
  | segment :: rest, .list items =>
      ((index? segment).bind (items[·]?)).bind (Value.get? rest)
  | _ :: _, _ => none

end BindingPress.Template
