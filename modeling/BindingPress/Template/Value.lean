import BindingPress.Decimal.Shortest

/-! The values that templates work with. -/

namespace BindingPress.Template

inductive Value where
  | null
  | bool (value : Bool)
  | int (value : Int)
  | float (value : Binary64)
  | text (value : String)
  | list (items : List Value)
  /-- Members in increasing order of their names. -/
  | object (members : List (String × Value))
deriving Repr

namespace Value

def insertMember (name : String) (value : Value) : List (String × Value) → List (String × Value)
  | [] => [(name, value)]
  | first :: rest =>
      if name = first.1 then (name, value) :: rest
      else if name < first.1 then (name, value) :: first :: rest
      else first :: insertMember name value rest

def ofMembers (members : List (String × Value)) : Value :=
  object (members.foldl (fun sorted (name, value) => insertMember name value sorted) [])

/-- A floating-point number, or null when it is not finite. -/
def ofBinary64 (value : Binary64) : Value :=
  if value.isFinite then float value else null

def ofOption (f : α → Value) : Option α → Value
  | some value => f value
  | none => null

mutual

def render : Value → List Char
  | null => []
  | bool true => "true".toList
  | bool false => "false".toList
  | int value => (toString value).toList
  | float value => (Decimal.render value).toList
  | text value => value.toList
  | list items => '[' :: (renderItems items ++ [']'])
  | object _ => "[object]".toList

def renderItems : List Value → List Char
  | [] => []
  | [item] => render item
  | item :: next :: rest => render item ++ ", ".toList ++ renderItems (next :: rest)

end

/-- Whether a value counts as true in a condition. -/
def isTruthy : Value → Bool
  | null => false
  | bool value => value
  | int value => value != 0
  | float value => !value.isZero && !value.isNaN
  | text value => value != ""
  | list items => !items.isEmpty
  | object members => !members.isEmpty

def number? : Value → Option Binary64
  | int value => some (Binary64.ofInt value)
  | float value => some value
  | _ => none

mutual

/-- Equality of values within which numbers are whole or not alike only when written alike. -/
def same : Value → Value → Bool
  | null, null => true
  | bool a, bool b => a == b
  | int a, int b => a == b
  | float a, float b => a.same b
  | text a, text b => a == b
  | list a, list b => sameItems a b
  | object a, object b => sameMembers a b
  | _, _ => false

def sameItems : List Value → List Value → Bool
  | [], [] => true
  | a :: rest, b :: others => same a b && sameItems rest others
  | _, _ => false

def sameMembers : List (String × Value) → List (String × Value) → Bool
  | [], [] => true
  | (name, a) :: rest, (other, b) :: others => name == other && same a b && sameMembers rest others
  | _, _ => false

end

end Value
end BindingPress.Template
