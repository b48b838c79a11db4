import BindingPress.Wire.Record

/-! Encoded messages, read by a schema that says what each field of each kind of message holds. -/

namespace BindingPress.Wire

inductive NumberForm where
  | varint
  | fixed32
  | fixed64
deriving Repr, DecidableEq

/-- What a field holds. Messages are of kinds `κ`. -/
inductive Slot (κ : Type) where
  /-- A number; where it may be repeated, several of them can be packed into one record. -/
  | number (form : NumberForm) (packable : Bool)
  | text
  | blob
  | message (kind : κ)
deriving Repr, DecidableEq

/-- The fields of each kind of message, by number. -/
abbrev Schema (κ : Type) := κ → Nat → Option (Slot κ)

inductive Datum where
  | number (value : Nat)
  | text (value : String)
  | blob (value : Bytes)
  /-- A message, with the bytes that it was read from. -/
  | message (raw : Bytes) (entries : List (Nat × Datum))
deriving Repr

/-- The values of a message's fields in the order in which they are given. -/
abbrev Entries := List (Nat × Datum)

namespace NumberForm

def value? : NumberForm → Content → Option Nat
  | varint, .varint value => some value
  | fixed32, .fixed32 value => some value
  | fixed64, .fixed64 value => some value
  | _, _ => none

def next? : NumberForm → Bytes → Option (Nat × Bytes)
  | varint, bytes => varint? bytes
  | fixed32, bytes => (take? 4 bytes).map fun (value, rest) => (littleEndian value, rest)
  | fixed64, bytes => (take? 8 bytes).map fun (value, rest) => (littleEndian value, rest)

def unpackWithin (form : NumberForm) : (steps : Nat) → Bytes → Option (List Nat)
  | _, [] => some []
  | 0, _ :: _ => none
  | steps + 1, bytes => do
      let (value, rest) ← form.next? bytes
      let others ← form.unpackWithin steps rest
      return value :: others

def unpack? (form : NumberForm) (bytes : Bytes) : Option (List Nat) :=
  form.unpackWithin bytes.length bytes

end NumberForm

/-- The values in one record. `below` reads the messages within. -/
def data? (below : κ → List Record → Option Entries) : Slot κ → Content → Option (List Datum)
  | .number form packable, content =>
      match form.value? content, content with
      | some value, _ => some [.number value]
      | none, .chunk bytes =>
          if packable then (form.unpack? bytes).map (·.map .number) else none
      | none, _ => none
  | .text, .chunk bytes => bytes.text?.map ([.text ·])
  | .blob, .chunk bytes => some [.blob bytes]
  | .message kind, .chunk bytes => do
      let records ← records? bytes
      let entries ← below kind records
      return [.message bytes entries]
  | _, _ => none

/-- The entries that one record stands for. Fields that the schema does not know are passed over,
unless they nest too deep, and in messages that are also to be `copied` so are those that it
knows. -/
def entries? (schema : Schema κ) (copied : κ → Bool) (depth : Nat)
    (below : κ → List Record → Option Entries) (kind : κ) (record : Record) : Option Entries :=
  let fits := record.2.height ≤ depth
  match schema kind record.1 with
  | some slot =>
      if copied kind && !fits then none
      else (data? below slot record.2).map (·.map (record.1, ·))
  | none => if fits then some [] else none

def interpret? (schema : Schema κ) (copied : κ → Bool) :
    (depth : Nat) → κ → List Record → Option Entries
  | 0, kind, records =>
      (records.mapM (entries? schema copied 0 (fun _ _ => none) kind)).map List.flatten
  | depth + 1, kind, records =>
      let below := interpret? schema copied depth
      (records.mapM (entries? schema copied (depth + 1) below kind)).map List.flatten

/-- Messages and groups may nest to this depth. -/
def depthLimit : Nat := 100

/-- Reads an encoded message in which messages of some kinds are also copied as they are. Copying
takes one level more than reading. -/
def readCopying? (schema : Schema κ) (copied : κ → Bool) (kind : κ) (bytes : Bytes) :
    Option Entries := do
  let records ← records? bytes
  interpret? schema copied depthLimit kind records

def read? (schema : Schema κ) (kind : κ) (bytes : Bytes) : Option Entries :=
  readCopying? schema (fun _ => false) kind bytes

def signed32 (value : Nat) : Int :=
  Int.bmod value 4294967296

namespace Entries

def values (entries : Entries) (number : Nat) : List Datum :=
  entries.filterMap fun (field, value) => if field = number then some value else none

def texts (entries : Entries) (number : Nat) : List String :=
  (entries.values number).filterMap fun
    | .text value => some value
    | _ => none

def numbers (entries : Entries) (number : Nat) : List Nat :=
  (entries.values number).filterMap fun
    | .number value => some value
    | _ => none

def blobs (entries : Entries) (number : Nat) : List Bytes :=
  (entries.values number).filterMap fun
    | .blob value => some value
    | _ => none

def messages (entries : Entries) (number : Nat) : List Entries :=
  (entries.values number).filterMap fun
    | .message _ entries => some entries
    | _ => none

/-- The last text counts. -/
def text? (entries : Entries) (number : Nat) : Option String :=
  (entries.texts number).getLast?

def text (entries : Entries) (number : Nat) : String :=
  (entries.text? number).getD ""

def int32s (entries : Entries) (number : Nat) : List Int :=
  (entries.numbers number).map signed32

/-- The last number counts. -/
def int32? (entries : Entries) (number : Nat) : Option Int :=
  (entries.int32s number).getLast?

def int32 (entries : Entries) (number : Nat) : Int :=
  (entries.int32? number).getD 0

def flag (entries : Entries) (number : Nat) : Bool :=
  ((entries.numbers number).getLast?).any (· != 0)

/-- The message that the messages given for a field form together. -/
def merged (entries : Entries) (number : Nat) : Entries :=
  (entries.messages number).flatten

/-- The bytes of the messages given for a field, one after the other. -/
def raw (entries : Entries) (number : Nat) : Bytes :=
  (entries.values number).flatMap fun
    | .message raw _ => raw
    | _ => []

end Entries
end BindingPress.Wire
