/-! Numbers in 64-bit binary floating point, as bit patterns, with the exact arithmetic that reading
and writing them takes. -/

namespace BindingPress

/-- A sign bit, eleven exponent bits and fifty-two fraction bits. -/
structure Binary64 where
  bits : UInt64
deriving Repr, DecidableEq

namespace Binary64

def signWeight : Nat := Nat.pow 2 63

def fractionLimit : Nat := Nat.pow 2 52

def exponentLimit : Nat := Nat.pow 2 11

def isNegative (x : Binary64) : Bool :=
  signWeight ≤ x.bits.toNat

def exponentField (x : Binary64) : Nat :=
  x.bits.toNat / fractionLimit % exponentLimit

def fractionField (x : Binary64) : Nat :=
  x.bits.toNat % fractionLimit

def isFinite (x : Binary64) : Bool :=
  x.exponentField != exponentLimit - 1

def isNaN (x : Binary64) : Bool :=
  !x.isFinite && x.fractionField != 0

def infinity : Binary64 := ⟨0x7FF0000000000000⟩

def notNumber : Binary64 := ⟨0x7FF8000000000000⟩

def negated (x : Binary64) : Binary64 :=
  ⟨x.bits ^^^ 0x8000000000000000⟩

def isZero (x : Binary64) : Bool :=
  x.exponentField == 0 && x.fractionField == 0

/-- The whole number `m` of a finite value whose size is `m · 2 ^ q`. -/
def significand (x : Binary64) : Nat :=
  if x.exponentField = 0 then x.fractionField else fractionLimit + x.fractionField

/-- The power `q` of a finite value whose size is `m · 2 ^ q`. -/
def power (x : Binary64) : Int :=
  if x.exponentField = 0 then -1074 else Int.ofNat x.exponentField - 1075

/-- Equality of numbers: both zeros are equal, and nothing equals what is not a number. -/
def same (x y : Binary64) : Bool :=
  !x.isNaN && !y.isNaN && (x.bits == y.bits || (x.isZero && y.isZero))

/-- A quotient rounded to the nearest whole number, halves to the even one. -/
def roundQuotient (numerator denominator : Nat) : Nat :=
  let quotient := numerator / denominator
  let rest := numerator % denominator
  if 2 * rest < denominator then quotient
  else if denominator < 2 * rest then quotient + 1
  else quotient + quotient % 2

/-- `numerator / denominator / 2 ^ power`, as a fraction. -/
def scaled (numerator denominator : Nat) (power : Int) : Nat × Nat :=
  if 0 ≤ power then (numerator, denominator * Nat.pow 2 power.toNat)
  else (numerator * Nat.pow 2 (-power).toNat, denominator)

/-- The bits of `m · 2 ^ q`, where `m` is at most `2 ^ 53` and, unless `q` is least, at least
`2 ^ 52`. -/
def pack (m : Nat) (q : Int) : Nat :=
  let (m, q) := if m = 2 * fractionLimit then (fractionLimit, q + 1) else (m, q)
  if m < fractionLimit then m
  else if 971 < q then (exponentLimit - 1) * fractionLimit
  else (q + 1075).toNat * fractionLimit + (m - fractionLimit)

def ofRatio (negative : Bool) (numerator denominator : Nat) : Binary64 :=
  let size :=
    if numerator = 0 then 0
    else
      let guess : Int := Int.ofNat numerator.log2 - Int.ofNat denominator.log2 - 52
      let (a, b) := scaled numerator denominator guess
      let power := max (if a < b * fractionLimit then guess - 1 else guess) (-1074)
      let (a, b) := scaled numerator denominator power
      pack (roundQuotient a b) power
  ⟨UInt64.ofNat (if negative then signWeight + size else size)⟩

def product (x y : Binary64) : Binary64 :=
  let (numerator, denominator) := scaled (x.significand * y.significand) 1 (-(x.power + y.power))
  ofRatio (x.isNegative != y.isNegative) numerator denominator

def ofInt (value : Int) : Binary64 :=
  ofRatio (value < 0) value.natAbs 1

/-- The value nearest to `mantissa · 10 ^ (-places)`. -/
def ofDecimal (negative : Bool) (mantissa places : Nat) : Binary64 :=
  ofRatio negative mantissa (Nat.pow 10 places)

end Binary64
end BindingPress
