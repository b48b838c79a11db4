import BindingPress.Decimal.Binary64
import BindingPress.Descriptor.Schema

/-! Options that are given by name, with a value in the form that it was written in. -/

namespace BindingPress

/-- A part of the name of an option: the name of a field, or that of an extension. -/
structure GivenPart where
  name : String
  isExtension : Bool
deriving Repr, DecidableEq

structure GivenOption where
  parts : List GivenPart
  identifier : Option String := none
  positive : Option Nat := none
  negative : Option Int := none
  double : Option Binary64 := none
  text : Option Bytes := none
  aggregate : Option String := none
deriving Repr, DecidableEq

def Wire.signed64 (value : Nat) : Int :=
  Int.bmod value 18446744073709551616

def GivenPart.ofEntries (entries : Wire.Entries) : GivenPart where
  name := entries.text 1
  isExtension := entries.flag 2

namespace GivenOption

def ofEntries (entries : Wire.Entries) : GivenOption where
  parts := (entries.messages 2).map GivenPart.ofEntries
  identifier := entries.text? 3
  positive := (entries.numbers 4).getLast?
  negative := (entries.numbers 5).getLast?.map Wire.signed64
  double := (entries.numbers 6).getLast?.map fun bits => ⟨UInt64.ofNat bits⟩
  text := (entries.blobs 7).getLast?
  aggregate := entries.text? 8

def ofOptions (kind : DescriptorKind) (options : Bytes) : List GivenOption :=
  let entries := (Wire.read? DescriptorKind.schema kind options).getD []
  (entries.messages DescriptorKind.givenPlace).map ofEntries

def int? (given : GivenOption) : Option Int :=
  (given.positive.map Int.ofNat).orElse fun _ => given.negative

def float? (given : GivenOption) : Option Binary64 :=
  given.double.orElse fun _ => given.int?.map Binary64.ofInt

def bool? (given : GivenOption) : Option Bool :=
  match given.identifier with
  | some "true" => some true
  | some "false" => some false
  | _ => none

/-- Whether a flag that is no extension is given as true. -/
def raises (given : GivenOption) (flag : String) : Bool :=
  given.parts == [{ name := flag, isExtension := false }] && given.bool? == some true

end GivenOption
end BindingPress
