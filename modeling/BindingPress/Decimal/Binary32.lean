import BindingPress.Decimal.Binary64

/-! Numbers in 32-bit binary floating point, as bit patterns. -/

namespace BindingPress

/-- A sign bit, eight exponent bits and twenty-three fraction bits. -/
structure Binary32 where
  bits : UInt32
deriving Repr, DecidableEq

namespace Binary32

def signWeight : Nat := Nat.pow 2 31

def fractionLimit : Nat := Nat.pow 2 23

def exponentLimit : Nat := Nat.pow 2 8

def size (x : Binary32) : Nat :=
  x.bits.toNat % signWeight

/-- The size of an infinity. Greater ones are not numbers. -/
def infiniteSize : Nat := (exponentLimit - 1) * fractionLimit

def isNaN (x : Binary32) : Bool :=
  infiniteSize < x.size

def isZero (x : Binary32) : Bool :=
  x.size == 0

/-- Equality of numbers: both zeros are equal, and nothing equals what is not a number. -/
def same (x y : Binary32) : Bool :=
  !x.isNaN && !y.isNaN && (x.bits == y.bits || (x.isZero && y.isZero))

def ofSize (negative : Bool) (size : Nat) : Binary32 :=
  ⟨UInt32.ofNat (if negative then signWeight + size else size)⟩

def infinity (negative : Bool) : Binary32 :=
  ofSize negative infiniteSize

def notNumber : Binary32 := ⟨0x7FC00000⟩

/-- The size of `m · 2 ^ q`, where `m` is at most `2 ^ 24` and, unless `q` is least, at least
`2 ^ 23`. -/
def pack (m : Nat) (q : Int) : Nat :=
  let (m, q) := if m = 2 * fractionLimit then (fractionLimit, q + 1) else (m, q)
  if m < fractionLimit then m
  else if 104 < q then infiniteSize
  else (q + 150).toNat * fractionLimit + (m - fractionLimit)

def ofRatio (negative : Bool) (numerator denominator : Nat) : Binary32 :=
  if numerator = 0 then ofSize negative 0
  else
    let guess : Int := Int.ofNat numerator.log2 - Int.ofNat denominator.log2 - 23
    let (a, b) := Binary64.scaled numerator denominator guess
    let power := max (if a < b * fractionLimit then guess - 1 else guess) (-149)
    let (a, b) := Binary64.scaled numerator denominator power
    ofSize negative (pack (Binary64.roundQuotient a b) power)

def ofBinary64 (x : Binary64) : Binary32 :=
  if x.isNaN then notNumber
  else if !x.isFinite then infinity x.isNegative
  else
    let (numerator, denominator) := Binary64.scaled x.significand 1 (-x.power)
    ofRatio x.isNegative numerator denominator

end Binary32
end BindingPress
