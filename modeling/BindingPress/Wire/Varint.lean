import BindingPress.Bytes

/-! Whole numbers as bytes of seven bits each, lowest first; every byte but the last has its high
bit set. -/

namespace BindingPress.Wire

/-- Sixty-four bits take at most this many bytes. -/
def varintLimit : Nat := 10

def varint (value : Nat) : Bytes :=
  if value < 128 then [UInt8.ofNat value]
  else UInt8.ofNat (value % 128 + 128) :: varint (value / 128)
termination_by value
decreasing_by omega

/-- Reads a number of at most `limit` bytes. The last byte that may be read has room for one bit
only. -/
def varintWithin : (limit : Nat) → Bytes → Option (Nat × Bytes)
  | 0, _ => none
  | _ + 1, [] => none
  | limit + 1, byte :: rest =>
      if byte.toNat < 128 then
        if limit = 0 && 1 < byte.toNat then none else some (byte.toNat, rest)
      else
        (varintWithin limit rest).map fun (high, rest) => (byte.toNat - 128 + 128 * high, rest)

def varint? (bytes : Bytes) : Option (Nat × Bytes) :=
  varintWithin varintLimit bytes

/-- A number that is given lowest byte first. -/
def littleEndian : Bytes → Nat
  | [] => 0
  | byte :: rest => byte.toNat + 256 * littleEndian rest

end BindingPress.Wire
