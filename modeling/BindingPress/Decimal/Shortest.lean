import BindingPress.Decimal.Binary64

/-! Decimal text of floating-point numbers: the fewest digits that read back to the same number,
and of those the nearest. -/

namespace BindingPress.Decimal

/-- The reals that round to `m · 2 ^ q`, as a fraction with the common denominator `unit`. -/
structure Interval where
  low : Nat
  value : Nat
  high : Nat
  unit : Nat
  /-- Whether the ends themselves round to the value. -/
  closed : Bool

/-- Below a power of two the neighbours are closer than above it. -/
def interval (x : Binary64) : Interval :=
  let m := x.significand
  let q := x.power
  let gap := if m = Binary64.fractionLimit && -1074 < q then 1 else 2
  let grow := Nat.pow 2 (q - 2).toNat
  let unit := Nat.pow 2 (2 - q).toNat
  ⟨(4 * m - gap) * grow, 4 * m * grow, (4 * m + 2) * grow, unit, m % 2 == 0⟩

/-- The number of places before the point: the least `e` with `value < 10 ^ e`. -/
def wholePlaces (range : Interval) : Int :=
  let most : Int := Int.ofNat (Nat.toDigits 10 range.value).length -
    Int.ofNat (Nat.toDigits 10 range.unit).length + 1
  let below := most - 1
  let smaller :=
    if 0 ≤ below then range.value < range.unit * Nat.pow 10 below.toNat
    else range.value * Nat.pow 10 (-below).toNat < range.unit
  if smaller then below else most

/-- Whether `digits · 10 ^ scale` lies in the interval. -/
def Interval.holds (range : Interval) (digits : Nat) (scale : Int) : Bool :=
  let point := digits * range.unit * Nat.pow 10 scale.toNat
  let stretch := Nat.pow 10 (-scale).toNat
  if range.closed then range.low * stretch ≤ point && point ≤ range.high * stretch
  else range.low * stretch < point && point < range.high * stretch

/-- The member of the interval with the given number of significant digits, if there is one. Of two
the nearer counts, and the greater if both are equally near. -/
def Interval.withDigits? (range : Interval) (places : Int) (count : Nat) : Option Nat :=
  let scale := places - count
  let numerator := range.value * Nat.pow 10 (-scale).toNat
  let denominator := range.unit * Nat.pow 10 scale.toNat
  let floor := numerator / denominator
  let rest := numerator % denominator
  let floorHolds := floor != 0 && range.holds floor scale
  let ceilingHolds := range.holds (floor + 1) scale
  if floorHolds && ceilingHolds then
    some (if 2 * rest < denominator then floor else floor + 1)
  else if floorHolds then some floor
  else if ceilingHolds then some (floor + 1)
  else none

/-- The shortest digits of a positive value and the number of places before the point. Seventeen
digits always suffice. When rounding up carries into a new place, the digits are a one followed by
zeros, of which only the one is kept. -/
def shortestDigits (x : Binary64) : List Char × Int :=
  let range := interval x
  let places := wholePlaces range
  let found := (List.range 17).findSome? fun fewer =>
    (range.withDigits? places (fewer + 1)).map fun digits => (Nat.toDigits 10 digits, fewer + 1)
  match found with
  | some (digits, count) =>
      if count < digits.length then (['1'], places + 1) else (digits, places)
  | none => (['0'], 1)

/-- Digits with the point after the given number of places, without an exponent. -/
def positional (digits : List Char) (places : Int) : List Char :=
  if places ≤ 0 then '0' :: '.' :: (List.replicate (-places).toNat '0' ++ digits)
  else if digits.length ≤ places.toNat then
    digits ++ List.replicate (places.toNat - digits.length) '0'
  else digits.take places.toNat ++ '.' :: digits.drop places.toNat

/-- The text of a number. A whole number has no point, and zero keeps its sign. -/
def render (x : Binary64) : String :=
  if x.isNaN then "NaN"
  else
    let sign := if x.isNegative then "-" else ""
    if !x.isFinite then sign ++ "inf"
    else if x.isZero then sign ++ "0"
    else
      let (digits, places) := shortestDigits x
      sign ++ String.ofList (positional digits places)

end BindingPress.Decimal
