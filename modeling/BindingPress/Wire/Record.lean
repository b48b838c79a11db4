import BindingPress.Wire.Varint

/-! Encoded messages as sequences of records. A record has a number and a content, and its form does
not depend on what the message means. -/

namespace BindingPress.Wire

inductive Content where
  | varint (value : Nat)
  | fixed32 (value : Nat)
  | fixed64 (value : Nat)
  | chunk (bytes : Bytes)
  | group (records : List (Nat × Content))
deriving Repr

abbrev Record := Nat × Content

mutual

/-- How many groups lie within each other, counting the content itself. -/
def Content.height : Content → Nat
  | .group records => tallest records + 1
  | _ => 1

def tallest : List (Nat × Content) → Nat
  | [] => 0
  | (_, content) :: rest => max content.height (tallest rest)

end

mutual

def Content.levels : Content → Nat
  | .group records => mostLevels records + 1
  | _ => 0

def mostLevels : List (Nat × Content) → Nat
  | [] => 0
  | (_, content) :: rest => max content.levels (mostLevels rest)

end

/-- A piece of an encoded message: a whole record, or an end of a group. -/
inductive Token where
  | record (number : Nat) (content : Content)
  | opening (number : Nat)
  | closing (number : Nat)

/-- The first bytes, when there are so many, and the others. Those in `taken` are already taken,
newest first. -/
def takeOnto : (taken : Bytes) → (count : Nat) → Bytes → Option (Bytes × Bytes)
  | taken, 0, bytes => some (taken.reverse, bytes)
  | _, _ + 1, [] => none
  | taken, count + 1, byte :: rest => takeOnto (byte :: taken) count rest

theorem takeOnto_eq (taken : Bytes) (count : Nat) (bytes : Bytes) :
    takeOnto taken count bytes =
      if count ≤ bytes.length then some (taken.reverse ++ bytes.take count, bytes.drop count)
      else none := by
  induction bytes generalizing taken count with
  | nil => cases count <;> simp [takeOnto]
  | cons byte rest ih => cases count <;> simp [takeOnto, ih]

def take? (count : Nat) (bytes : Bytes) : Option (Bytes × Bytes) :=
  takeOnto [] count bytes

theorem take?_eq (count : Nat) (bytes : Bytes) :
    take? count bytes =
      if count ≤ bytes.length then some (bytes.take count, bytes.drop count) else none := by
  simp [take?, takeOnto_eq]

/-- Reads bytes whose number comes before them. -/
def sized? (bytes : Bytes) : Option (Bytes × Bytes) := do
  let (size, rest) ← varint? bytes
  take? size rest

inductive Form where
  | varint | fixed64 | chunk
  /-- The marks at the ends of a group. -/
  | opening | closing
  | fixed32
deriving Repr, DecidableEq

def Form.ofNumber? : Nat → Option Form
  | 0 => some varint
  | 1 => some fixed64
  | 2 => some chunk
  | 3 => some opening
  | 4 => some closing
  | 5 => some fixed32
  | _ => none

/-- What comes before a content: the number of its field and its form. -/
structure Key where
  number : Nat
  form : Form
deriving Repr, DecidableEq

/-- Keys have thirty-two bits, of which the lowest three tell the form. -/
def keyLimit : Nat := 4294967296

/-- Reads a key, and gives the bytes after it. No field has the number zero. -/
def key? (bytes : Bytes) : Option (Key × Bytes) := do
  let (key, rest) ← varint? bytes
  let form ← Form.ofNumber? (key % 8)
  if keyLimit ≤ key || key / 8 = 0 then none else return ({ number := key / 8, form }, rest)

/-- Reads a content that is not a group, of the form that its key calls for. -/
def content? (form : Form) (bytes : Bytes) : Option (Content × Bytes) :=
  match form with
  | .varint => (varint? bytes).map fun (value, rest) => (.varint value, rest)
  | .fixed64 => (take? 8 bytes).map fun (value, rest) => (.fixed64 (littleEndian value), rest)
  | .chunk => (sized? bytes).map fun (value, rest) => (.chunk value, rest)
  | .fixed32 => (take? 4 bytes).map fun (value, rest) => (.fixed32 (littleEndian value), rest)
  | .opening | .closing => none

def token? (key : Key) (bytes : Bytes) : Option (Token × Bytes) :=
  match key.form with
  | .opening => some (.opening key.number, bytes)
  | .closing => some (.closing key.number, bytes)
  | form => (content? form bytes).map fun (content, rest) => (.record key.number content, rest)

def nextToken? (bytes : Bytes) : Option (Token × Bytes) := do
  let (key, rest) ← key? bytes
  token? key rest

/-- Reads up to `steps` pieces, to the end of the bytes. -/
def tokensWithin : (steps : Nat) → Bytes → Option (List Token)
  | _, [] => some []
  | 0, _ :: _ => none
  | steps + 1, bytes => do
      let (token, rest) ← nextToken? bytes
      let others ← tokensWithin steps rest
      return token :: others

/-- Every piece takes a byte at least, so that there are no more pieces than bytes. -/
def tokens? (bytes : Bytes) : Option (List Token) :=
  tokensWithin bytes.length bytes

/-- Puts the records of groups together. `current` holds the records of the innermost open group
and `enclosing` the number of that group with the records around it, newest first. -/
def nest? : List Token → (current : List Record) → (enclosing : List (Nat × List Record)) →
    Option (List Record)
  | [], current, [] => some current.reverse
  | [], _, _ :: _ => none
  | .record number content :: rest, current, enclosing =>
      nest? rest ((number, content) :: current) enclosing
  | .opening number :: rest, current, enclosing => nest? rest [] ((number, current) :: enclosing)
  | .closing number :: rest, current, (opened, outer) :: enclosing =>
      if number = opened then nest? rest ((number, .group current.reverse) :: outer) enclosing
      else none
  | .closing _ :: _, _, [] => none

def records? (bytes : Bytes) : Option (List Record) := do
  let tokens ← tokens? bytes
  nest? tokens [] []

/-- Reads the records of the group with a number to its end, with up to `steps` pieces. `current`
holds its records so far, newest first, and `enclosing` the groups around it that are open too. -/
def groupWithin : (steps number : Nat) → (current : List Record) →
    (enclosing : List (Nat × List Record)) → Bytes → Option (List Record × Bytes)
  | 0, _, _, _, _ => none
  | steps + 1, number, current, enclosing, bytes => do
      let (token, rest) ← nextToken? bytes
      match token with
      | .record field content =>
          groupWithin steps number ((field, content) :: current) enclosing rest
      | .opening inner => groupWithin steps inner [] ((number, current) :: enclosing) rest
      | .closing closed =>
          if closed ≠ number then none
          else
            match enclosing with
            | [] => some (current.reverse, rest)
            | (outer, records) :: others =>
                groupWithin steps outer ((number, .group current.reverse) :: records) others rest

/-- Reads what a key starts, which may be a group, and gives the bytes after it. -/
def contentOrGroup? (key : Key) (bytes : Bytes) : Option (Content × Bytes) :=
  match key.form with
  | .opening =>
      (groupWithin bytes.length key.number [] [] bytes).map fun (records, rest) =>
        (.group records, rest)
  | form => content? form bytes

def chunk (number : Nat) (content : Bytes) : Bytes :=
  varint (number * 8 + 2) ++ varint content.length ++ content

end BindingPress.Wire
