import BindingPress.Decimal.Binary64

/-! Expressions and templates, as trees. -/

namespace BindingPress.Template

inductive Operand where
  | text (value : String)
  | int (value : Int)
  | float (value : Binary64)
  | bool (value : Bool)
  /-- A name and the steps below it, as they are written. -/
  | path (text : String)
deriving Repr, DecidableEq

inductive Comparison where
  | equal
  | unequal
deriving Repr, DecidableEq

mutual

inductive Expr where
  /-- An operand that goes through filters and is negated last. -/
  | value (negated : Bool) (operand : Operand) (filters : List Filter)
  | compare (negated : Bool) (comparison : Comparison) (left right : Expr)
  | both (left right : Expr)
  | either (left right : Expr)
deriving Repr

inductive Filter where
  | call (name : String) (arguments : List Argument)
deriving Repr

inductive Argument where
  | mk (name : String) (value : Expr)
deriving Repr

end

def Argument.name : Argument → String
  | .mk name _ => name

structure LoopNames where
  key : Option String
  item : String
deriving Repr, DecidableEq

mutual

inductive Node where
  | text (text : List Char)
  /-- Text that no neighbouring tag may trim. -/
  | verbatim (text : List Char)
  | output (expr : Expr)
  | assign (name : String) (expr : Expr)
  | inclusion (template : String)
  /-- The first arm whose condition holds is rendered, or else the last part. -/
  | branch (arms : List Arm) (otherwise : List Node)
  /-- The body is rendered for each item, or else the last part when there is none. -/
  | loop (names : LoopNames) (container : Expr) (body : List Node) (empty : List Node)
deriving Repr

inductive Arm where
  | mk (condition : Expr) (body : List Node)
deriving Repr

end

end BindingPress.Template
