import BindingPress.Error
import BindingPress.Json.Document
import BindingPress.Text.Parts

/-! The table that gives the target language's type and accessor for each kind of field. -/

namespace BindingPress

structure Conversion where
  /-- The target type, where `{name}` stands for the referenced type. -/
  typePattern : String
  /-- How a field is reached, where `{field}` stands for its name. -/
  accessorPattern : String
deriving Repr, DecidableEq

def fillField (pattern field : String) : String :=
  String.ofList (Text.replace '\x7b' "field\x7d".toList field.toList pattern.toList)

def fillName (pattern name : String) : String :=
  String.ofList (Text.replace '\x7b' "name\x7d".toList name.toList pattern.toList)

namespace Conversion

def defaultAccessor : String := "\x7bfield\x7d"

def ofType (typePattern : String) : Conversion :=
  ⟨typePattern, defaultAccessor⟩

def typeFor (conversion : Conversion) (name : String) : String :=
  fillName conversion.typePattern name

def accessorFor (conversion : Conversion) (field : String) : String :=
  fillField conversion.accessorPattern field

end Conversion

structure Wrapper where
  opening : String := ""
  closing : String := ""
  /-- Takes the place of the element's accessor. -/
  accessorPattern : Option String := none
deriving Repr, DecidableEq

namespace Wrapper

def wrap (wrapper : Wrapper) (element : String) : String :=
  wrapper.opening ++ element ++ wrapper.closing

def accessorFor (wrapper : Wrapper) (field : String) : Option String :=
  wrapper.accessorPattern.map fun pattern => fillField pattern field

end Wrapper

/-- Conversions by kind of field, each kind at most once, and the wrapper of repeated fields. -/
structure ConversionTable where
  entries : List (String × Conversion) := []
  repeated : Option Wrapper := none
deriving Repr, DecidableEq

namespace ConversionTable

/-- The later of two entries for one kind wins. -/
def insert (table : ConversionTable) (kind : String) (conversion : Conversion) :
    ConversionTable :=
  { table with entries := (kind, conversion) :: table.entries.filter (·.1 != kind) }

def get? (table : ConversionTable) (kind : String) : Option Conversion :=
  table.entries.lookup kind

def size (table : ConversionTable) : Nat :=
  table.entries.length

def ofTypes (types : List (String × String)) (repeated : Option Wrapper) : ConversionTable :=
  types.foldl (fun table (kind, type) => table.insert kind (.ofType type))
    { entries := [], repeated }

def valuesNamed (name : String) (members : List (String × Json)) : List Json :=
  (members.filter (·.1 == name)).map (·.2)

/-- A member that may be left out and else is given once. -/
def optionalMember? {α : Type} (read? : Json → Option (Option α)) (members : List (String × Json))
    (name : String) : Option (Option α) :=
  match valuesNamed name members with
  | [] => some none
  | [value] => read? value
  | _ => none

def text? : Json → Option (Option String)
  | .text (some value) => some (some value)
  | _ => none

def nullableText? : Json → Option (Option String)
  | .null => some none
  | .text (some value) => some (some value)
  | _ => none

/-- The members of an object whose names can all be read. -/
def namedMembers? (members : List (Option String × Json)) : Option (List (String × Json)) :=
  members.mapM fun (name, value) => name.map (·, value)

/-- An entry is a type pattern, or an object with a `type` and perhaps an `accessor`. -/
def conversion? : Json → Option Conversion
  | .text (some typePattern) => some (.ofType typePattern)
  | .object members => do
      let members ← namedMembers? members
      let typePattern ← (← optionalMember? text? members "type")
      let accessor ← optionalMember? nullableText? members "accessor"
      return ⟨typePattern, accessor.getD Conversion.defaultAccessor⟩
  | _ => none

/-- A wrapper is null, an object, or an array of at most three parts in a fixed order. -/
def wrapper? : Json → Option (Option Wrapper)
  | .null => some none
  | .object members => do
      let members ← namedMembers? members
      let opening ← optionalMember? text? members "prefix"
      let closing ← optionalMember? text? members "suffix"
      let accessor ← optionalMember? nullableText? members "accessor"
      return some ⟨opening.getD "", closing.getD "", accessor⟩
  | .array [] => some (some {})
  | .array [.text (some opening)] => some (some ⟨opening, "", none⟩)
  | .array [.text (some opening), .text (some closing)] => some (some ⟨opening, closing, none⟩)
  | .array [.text (some opening), .text (some closing), accessor] =>
      (nullableText? accessor).map fun accessor => some ⟨opening, closing, accessor⟩
  | _ => none

def repeatedName : String := "repeated"

/-- Reads a table from the members of an object. Of several entries for one kind the last one
counts, but all have to be well formed. -/
def ofMembers? (members : List (String × Json)) : Option ConversionTable := do
  let repeated ← optionalMember? wrapper? members repeatedName
  let entries ← (members.filter (·.1 != repeatedName)).mapM fun (kind, value) =>
    (conversion? value).map (kind, ·)
  return entries.foldl (fun table (kind, conversion) => table.insert kind conversion)
    { entries := [], repeated }

/-- How deep the value of a member may nest; with the table itself that makes 127 levels. -/
def nestingLimit : Nat := 126

/-- Outside of the wrapper, whose unknown members are skipped unread, every value has to be
sound. -/
def ofJson? : Json → Option ConversionTable
  | .object members => do
      let members ← namedMembers? members
      if members.all fun (name, value) => name == repeatedName || value.sound nestingLimit then
        ofMembers? members
      else failure
  | _ => none

def parse (source : String) (wording : Wording := {}) : Except Error ConversionTable :=
  match (Json.parse? source).bind ofJson? with
  | some table => .ok table
  | none => .error (.tableMalformed wording.table)

end ConversionTable
end BindingPress
