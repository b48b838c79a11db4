import BindingPress.Template.Expr
import BindingPress.Template.Filter
import BindingPress.Template.Path
import BindingPress.Text.Cluster

/-! Rendering: what a template writes, given the values it may refer to. -/

namespace BindingPress.Template

structure LoopState where
  names : LoopNames
  index : Nat
  count : Nat
  key : String
  /-- A round may be without an item. -/
  item : Option Value

/-- Names that are bound here, and the loop that this scope is one round of. -/
structure Scope where
  bindings : List (String × Value) := []
  loop : Option LoopState := none

/-- Scopes from the innermost outwards, and the context that was given. -/
structure Environment where
  scopes : List Scope
  context : Value

namespace LoopState

/-- What a loop says about its round. -/
def progress? (loop : LoopState) (name : String) : Option Value :=
  match name with
  | "index" => some (.int (loop.index + 1))
  | "index0" => some (.int loop.index)
  | "first" => some (.bool (loop.index == 0))
  | "last" => some (.bool (loop.index + 1 == loop.count))
  | _ => none

/-- The name of the key comes first and that of the item last. -/
def find? (loop : LoopState) (path : List Char) : Option Value :=
  let root := pathRoot path
  if loop.names.key == some (String.ofList path) then some (.text loop.key)
  else if root = "loop" then loop.progress? (String.ofList (pathTail path))
  else if root = loop.names.item then loop.item.bind (·.get? (pathSteps (pathTail path)))
  else none

end LoopState

namespace Scope

/-- What is bound here hides what the loop binds. -/
def find? (scope : Scope) (path : List Char) : Option Value :=
  let bound := (scope.bindings.lookup (pathRoot path)).bind (·.get? (pathSteps (pathTail path)))
  bound.orElse fun _ => scope.loop.bind fun loop => loop.find? path

def bind (scope : Scope) (name : String) (value : Value) : Scope :=
  { scope with bindings := (name, value) :: scope.bindings }

end Scope

namespace Environment

/-- The value that a path without brackets leads to. -/
def find? (environment : Environment) (path : List Char) : Option Value :=
  (environment.scopes.findSome? fun scope => scope.find? path).orElse fun _ =>
    environment.context.get? (pathRoot path :: pathSteps (pathTail path))

/-- Writes a path without brackets: the paths in them are replaced by what they lead to. These are
shorter, so that steps for every character suffice. -/
def plainPath? (environment : Environment) : (steps : Nat) → List Char → Option (List Char)
  | 0, _ => none
  | steps + 1, path =>
      if path.contains '[' then do
        let filled ← (innerPaths path).foldlM
          (fun text inner => do
            let value ← environment.find? (← plainPath? environment steps inner)
            let step ← value.step?
            return replaceFirst ('[' :: inner ++ [']']) ('.' :: step) text)
          path
        return withoutBrackets filled
      else some path

def follow? (environment : Environment) (path : String) : Option Value :=
  (environment.plainPath? (path.length + 1) path.toList).bind environment.find?

def bind (environment : Environment) (name : String) (value : Value) : Environment :=
  match environment.scopes with
  | scope :: outer => { environment with scopes := scope.bind name value :: outer }
  | [] => environment

def enter (environment : Environment) (scope : Scope) : Environment :=
  { environment with scopes := scope :: environment.scopes }

end Environment

def Operand.literal? : Operand → Option Value
  | .text value => some (.text value)
  | .int value => some (.int value)
  | .float value => some (.float value)
  | .bool value => some (.bool value)
  | .path _ => none

/-- Numbers are compared by size; a number and anything else are neither equal nor unequal. -/
def compareValues (comparison : Comparison) (left right : Value) : Option Bool :=
  let agree :=
    match left.number?, right.number? with
    | some a, some b => some (a.same b)
    | none, none => some (left.same right)
    | _, _ => none
  agree.map fun agree =>
    match comparison with
    | .equal => agree
    | .unequal => !agree

/-- Values that cannot be compared fulfil no condition, negated or not. -/
def comparisonHolds (negated : Bool) (comparison : Comparison) (left right : Value) : Bool :=
  (compareValues comparison left right).any (· != negated)

mutual

/-- The value of an expression. A path that leads nowhere is an error, but its negation is true
before any filter. A comparison is negated once more than when it is a condition. -/
def eval (environment : Environment) : Expr → Except RenderFailure Value
  | .value negated operand filters => do
      let start :=
        match operand with
        | .path path => environment.follow? path
        | operand => operand.literal?
      match start with
      | none => if negated then .ok (.bool true) else .error {}
      | some value =>
          let value ← evalFilters environment value filters
          return if negated then .bool (!value.isTruthy) else value
  | .compare negated comparison left right => do
      let left ← eval environment left
      let right ← eval environment right
      return .bool (comparisonHolds negated comparison left right != negated)
  | .both left right => do
      if ← holds environment left then return .bool (← holds environment right)
      else return .bool false
  | .either left right => do
      if ← holds environment left then return .bool true
      else return .bool (← holds environment right)

/-- Whether a condition holds. A path that cannot be evaluated does not hold, and a literal counts
without its filters. -/
def holds (environment : Environment) : Expr → Except RenderFailure Bool
  | .value negated operand filters =>
      match operand.literal? with
      | some value => .ok (value.isTruthy != negated)
      | none =>
          match eval environment (.value negated operand filters) with
          | .ok value => .ok value.isTruthy
          | .error _ => .ok false
  | .compare negated comparison left right => do
      let left ← eval environment left
      let right ← eval environment right
      return comparisonHolds negated comparison left right
  | .both left right => do
      if ← holds environment left then holds environment right else return false
  | .either left right => do
      if ← holds environment left then return true else holds environment right

def evalFilters (environment : Environment) (value : Value) :
    List Filter → Except RenderFailure Value
  | [] => .ok value
  | .call name arguments :: rest =>
      match filter? name with
      | none => .error {}
      | some apply => do
          let arguments ← evalArguments environment arguments
          let value ← apply arguments value
          evalFilters environment value rest

/-- The values of arguments. Of several with one name only the last is evaluated. -/
def evalArguments (environment : Environment) :
    List Argument → Except RenderFailure (List (String × Value))
  | [] => .ok []
  | .mk name value :: rest => do
      if rest.any (·.name == name) then evalArguments environment rest
      else
        let value ← eval environment value
        let others ← evalArguments environment rest
        return (name, value) :: others

end

/-- The rounds of a loop over a text: as many as it has characters. Each has the next cluster of
them, as long as there is one. -/
def textRounds (text : List Char) : List (Option Value) :=
  let clusters := (Text.clusters text).map fun cluster => Value.text (String.ofList cluster)
  clusters.map some ++ List.replicate (text.length - clusters.length) none

/-- The rounds of a loop: each item with the name it has, if it has one. Lists and texts have no
names and an object has to be asked for them. -/
def rounds (names : LoopNames) : Value → Except RenderFailure (List (String × Option Value))
  | .list items =>
      if names.key.isNone then .ok (items.map fun item => ("", some item)) else .error {}
  | .text text =>
      if names.key.isNone then .ok ((textRounds text.toList).map ("", ·)) else .error {}
  | .object members =>
      if names.key.isSome then .ok (members.map fun (key, item) => (key, some item))
      else .error {}
  | _ => .error {}

def Expr.isPath : Expr → Bool
  | .value _ (.path _) _ => true
  | _ => false

abbrev Inclusion := String → Environment → Except RenderFailure (List Char)

mutual

/-- Renders nodes in order. What one of them binds the later ones see. -/
def renderNodes (inclusion : Inclusion) (environment : Environment) :
    List Node → Except RenderFailure (List Char × Environment)
  | [] => .ok ([], environment)
  | node :: rest => do
      let (written, environment) ← renderNode inclusion environment node
      let (others, environment) ← renderNodes inclusion environment rest
      return (written ++ others, environment)

def renderNode (inclusion : Inclusion) (environment : Environment) :
    Node → Except RenderFailure (List Char × Environment)
  | .text text => .ok (text, environment)
  | .verbatim text => .ok (text, environment)
  | .output expr => do
      let value ← eval environment expr
      return (value.render, environment)
  | .assign name expr => do
      let value ← eval environment expr
      return ([], environment.bind name value)
  | .inclusion template => do
      let written ← inclusion template (environment.enter {})
      return (written, environment)
  | .branch arms otherwise => do
      match ← renderArms inclusion environment arms with
      | some rendered => return rendered
      | none => renderNodes inclusion environment otherwise
  | .loop names container body empty => do
      if !container.isPath then throw {}
      let rounds ← rounds names (← eval environment container)
      if rounds.isEmpty then renderNodes inclusion environment empty
      else
        let written ← (rounds.mapIdx (·, ·)).mapM fun (index, key, item) => do
          let state : LoopState := { names, index, count := rounds.length, key, item }
          let round := environment.enter { bindings := [], loop := some state }
          let (written, _) ← renderNodes inclusion round body
          return written
        return (written.flatten, environment)

/-- Renders the first arm whose condition holds, if one does. -/
def renderArms (inclusion : Inclusion) (environment : Environment) :
    List Arm → Except RenderFailure (Option (List Char × Environment))
  | [] => .ok none
  | .mk condition body :: rest => do
      if ← holds environment condition then
        return some (← renderNodes inclusion environment body)
      else renderArms inclusion environment rest

end

end BindingPress.Template
