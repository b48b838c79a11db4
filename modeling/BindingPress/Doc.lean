import BindingPress.Descriptor
import BindingPress.Text.Blank

/-! Documentation comments, found by the place of a declaration in its file. -/

namespace BindingPress

/-- A declaration that can be documented, by its position among its siblings. -/
inductive Declaration where
  | message (index : Nat)
  | field (message index : Nat)
  | nestedEnum (message index : Nat)
  | nestedEnumValue (message enum index : Nat)
  | enum (index : Nat)
  | enumValue (enum index : Nat)
  | service (index : Nat)
  | method (service index : Nat)
deriving Repr, DecidableEq

namespace Declaration

/-- Positions are stored as signed 32-bit numbers. -/
def position (index : Nat) : Int :=
  Int.bmod index 4294967296

/-- The place of a declaration: from the file inwards, the number of the list it is in, then its
position in that list. -/
def path : Declaration → List Int
  | message i => [4, position i]
  | field i j => [4, position i, 2, position j]
  | nestedEnum i j => [4, position i, 4, position j]
  | nestedEnumValue i j k => [4, position i, 4, position j, 2, position k]
  | enum i => [5, position i]
  | enumValue i j => [5, position i, 2, position j]
  | service i => [6, position i]
  | method i j => [6, position i, 2, position j]

end Declaration

/-- Takes the indentation of one blank and the blanks at the end off a line of a comment. -/
def cleanLine (line : List Char) : List Char :=
  Text.trimEnd ((Text.stripPrefix? [' '] line).getD line)

def joinLines (lines : List (List Char)) : List Char :=
  List.intercalate ['\n'] lines

def cleanComment (comment : String) : String :=
  String.ofList (Text.trim (joinLines ((Text.lines comment.toList).map cleanLine)))

namespace Location

/-- The leading comment unless it is blank, else the nearest detached one, else the trailing
one. -/
def comment? (location : Location) : Option String :=
  (location.leading.filter fun comment => Text.trim comment.toList != [])
    |>.orElse (fun _ => location.detached.getLast?)
    |>.orElse (fun _ => location.trailing)

/-- The cleaned comment, if anything is left of it. -/
def doc? (location : Location) : Option String :=
  (location.comment?.map cleanComment).filter (· != "")

end Location

/-- Documentation by place, each place at most once. -/
structure DocIndex where
  entries : List (List Int × String) := []
deriving Repr, DecidableEq

namespace DocIndex

def get? (index : DocIndex) (path : List Int) : Option String :=
  index.entries.lookup path

/-- The first text for a place stays. -/
def insert (index : DocIndex) (path : List Int) (text : String) : DocIndex :=
  if (index.get? path).isSome then index else ⟨index.entries ++ [(path, text)]⟩

def ofLocations (locations : List Location) : DocIndex :=
  locations.foldl (fun index location =>
    match location.doc? with
    | some text => index.insert location.path text
    | none => index) {}

def size (index : DocIndex) : Nat :=
  index.entries.length

def get (index : DocIndex) (declaration : Declaration) : String :=
  (index.get? declaration.path).getD ""

end DocIndex
end BindingPress
