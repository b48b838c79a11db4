import BindingPress.Json.Token

/-! JSON documents as trees. Objects keep all their members in order, repeated names included. -/

namespace BindingPress

inductive Json where
  | null
  | bool (value : Bool)
  /-- A number; `finite` unless it is too large for a 64-bit floating-point value. -/
  | number (finite : Bool)
  /-- A string; absent when an escape names half of a surrogate pair alone. -/
  | text (value : Option String)
  | array (items : List Json)
  | object (members : List (Option String × Json))
deriving Repr

namespace Json

mutual

/-- Whether every string can be read, every number is finite, and arrays and objects nest at most
`depth` deep. -/
def sound (depth : Nat) : Json → Bool
  | null => true
  | bool _ => true
  | number finite => finite
  | text value => value.isSome
  | array items => 0 < depth && itemsSound (depth - 1) items
  | object members => 0 < depth && membersSound (depth - 1) members

def itemsSound (depth : Nat) : List Json → Bool
  | [] => true
  | item :: rest => sound depth item && itemsSound depth rest

def membersSound (depth : Nat) : List (Option String × Json) → Bool
  | [] => true
  | (name, value) :: rest => name.isSome && sound depth value && membersSound depth rest

end

mutual

/-- Reads one value. Every step takes a token, so as many steps as there are tokens suffice. -/
def value? : Nat → List Token → Option (Json × List Token)
  | 0, _ => none
  | steps + 1, tokens =>
      match tokens with
      | .null :: rest => some (null, rest)
      | .true :: rest => some (bool true, rest)
      | .false :: rest => some (bool false, rest)
      | .text value :: rest => some (text value, rest)
      | .number finite :: rest => some (number finite, rest)
      | .openArray :: .closeArray :: rest => some (array [], rest)
      | .openArray :: rest => (items? steps rest).map fun (items, rest) => (array items, rest)
      | .openObject :: .closeObject :: rest => some (object [], rest)
      | .openObject :: rest =>
          (members? steps rest).map fun (members, rest) => (object members, rest)
      | _ => none

def items? : Nat → List Token → Option (List Json × List Token)
  | 0, _ => none
  | steps + 1, tokens => do
      let (item, rest) ← value? steps tokens
      match rest with
      | .comma :: rest =>
          let (items, rest) ← items? steps rest
          return (item :: items, rest)
      | .closeArray :: rest => return ([item], rest)
      | _ => none

def members? : Nat → List Token → Option (List (Option String × Json) × List Token)
  | 0, _ => none
  | steps + 1, tokens =>
      match tokens with
      | .text name :: .colon :: rest => do
          let (value, rest) ← value? steps rest
          match rest with
          | .comma :: rest =>
              let (members, rest) ← members? steps rest
              return ((name, value) :: members, rest)
          | .closeObject :: rest => return ([(name, value)], rest)
          | _ => none
      | _ => none

end

def parse? (source : String) : Option Json := do
  let tokens ← tokens? source.toList
  let (document, rest) ← value? (2 * tokens.length) tokens
  if rest = [] then return document else failure

end Json
end BindingPress
