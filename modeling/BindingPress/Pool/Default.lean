import BindingPress.Decimal.Binary32
import BindingPress.Descriptor

/-! Default values: which texts give a value of a type, and which value. -/

namespace BindingPress.DefaultValue

/-- Digits, at least one, and nothing else. -/
def natural? (digits : List Char) : Option Nat :=
  if digits ≠ [] && digits.all Char.isDigit then
    some (digits.foldl (fun value digit => 10 * value + (digit.toNat - '0'.toNat)) 0)
  else none

def unsigned? (bits : Nat) (text : List Char) : Option Int :=
  let digits := match text with
    | '+' :: rest => rest
    | text => text
  ((natural? digits).filter (· < Nat.pow 2 bits)).map Int.ofNat

def signed? (bits : Nat) : List Char → Option Int
  | '-' :: digits => ((natural? digits).filter (· ≤ Nat.pow 2 (bits - 1))).map fun n => -Int.ofNat n
  | '+' :: digits => ((natural? digits).filter (· < Nat.pow 2 (bits - 1))).map Int.ofNat
  | digits => ((natural? digits).filter (· < Nat.pow 2 (bits - 1))).map Int.ofNat

def exponent? : List Char → Option Int
  | '-' :: digits => (natural? digits).map fun n => -Int.ofNat n
  | '+' :: digits => (natural? digits).map Int.ofNat
  | digits => (natural? digits).map Int.ofNat

inductive Numeral where
  /-- The number `mantissa · 10 ^ exponent`, whose mantissa has at most `size` digits. -/
  | decimal (negative : Bool) (mantissa size : Nat) (exponent : Int)
  | infinity (negative : Bool)
  | notNumber
deriving Repr, DecidableEq

namespace Numeral

/-- The size of a decimal number as a fraction. Those that are far out of range are not worked
out. -/
def ratio (mantissa size : Nat) (exponent : Int) : Nat × Nat :=
  if mantissa = 0 || exponent + size < -400 then (0, 1)
  else if 400 < exponent then (Nat.pow 10 400, 1)
  else if 0 ≤ exponent then (mantissa * Nat.pow 10 exponent.toNat, 1)
  else (mantissa, Nat.pow 10 (-exponent).toNat)

def toBinary64 : Numeral → Binary64
  | decimal negative mantissa size exponent =>
      let (numerator, denominator) := ratio mantissa size exponent
      .ofRatio negative numerator denominator
  | infinity negative => if negative then Binary64.negated .infinity else .infinity
  | notNumber => .notNumber

def toBinary32 : Numeral → Binary32
  | decimal negative mantissa size exponent =>
      let (numerator, denominator) := ratio mantissa size exponent
      .ofRatio negative numerator denominator
  | infinity negative => .infinity negative
  | notNumber => .notNumber

end Numeral

/-- A decimal number whose sign is already read. -/
def decimal? (negative : Bool) (text : List Char) : Option Numeral :=
  let whole := text.takeWhile Char.isDigit
  let rest := text.dropWhile Char.isDigit
  let (fraction, rest) := match rest with
    | '.' :: rest => (rest.takeWhile Char.isDigit, rest.dropWhile Char.isDigit)
    | rest => ([], rest)
  let exponent := match rest with
    | [] => some 0
    | mark :: exponent => if mark = 'e' || mark = 'E' then exponent? exponent else none
  match natural? (whole ++ fraction), exponent with
  | some mantissa, some exponent =>
      some (.decimal negative mantissa (whole ++ fraction).length (exponent - fraction.length))
  | _, _ => none

/-- A decimal number, an infinity or what is not a number. -/
def numeral? (text : List Char) : Option Numeral :=
  let (negative, size) := match text with
    | '-' :: rest => (true, rest)
    | '+' :: rest => (false, rest)
    | text => (false, text)
  match String.ofList (size.map Char.toLower) with
  | "inf" | "infinity" => some (.infinity negative)
  | "nan" => some .notNumber
  | _ => decimal? negative size

def isOctal (c : Char) : Bool :=
  '0' ≤ c && c ≤ '7'

def octalDigit (c : Char) : Nat :=
  c.toNat - '0'.toNat

def hexadecimalDigit? (c : Char) : Option Nat :=
  if c.isDigit then some (c.toNat - '0'.toNat)
  else if 'a' ≤ c && c ≤ 'f' then some (c.toNat - 'a'.toNat + 10)
  else if 'A' ≤ c && c ≤ 'F' then some (c.toNat - 'A'.toNat + 10)
  else none

/-- The byte that a letter after a backslash stands for. -/
def plainEscape? : Char → Option UInt8
  | 'a' => some 7
  | 'b' => some 8
  | 'f' => some 12
  | 'n' => some 10
  | 'r' => some 13
  | 't' => some 9
  | 'v' => some 11
  | '\\' => some 92
  | '?' => some 63
  | '\x27' => some 39
  | '\x22' => some 34
  | _ => none

/-- Two hexadecimal digits, or one after a plus sign. -/
def hexadecimalPair? (high low : Char) : Option UInt8 := do
  let high ← if high = '+' then some 0 else hexadecimalDigit? high
  let low ← hexadecimalDigit? low
  return UInt8.ofNat (16 * high + low)

/-- The number of up to three octal digits, of which the lowest eight bits count. -/
def octalByte (digits : List Char) : UInt8 :=
  UInt8.ofNat (digits.foldl (fun value digit => 8 * value + octalDigit digit) 0)

/-- The bytes that a text with escapes stands for. A backslash starts an escape: of one letter, of
up to three octal digits, or of a pair of hexadecimal ones. -/
def bytes? : List Char → Option Bytes
  | [] => some []
  | '\\' :: 'x' :: high :: low :: rest => do
      return (← hexadecimalPair? high low) :: (← bytes? rest)
  | '\\' :: 'X' :: high :: low :: rest => do
      return (← hexadecimalPair? high low) :: (← bytes? rest)
  | '\\' :: first :: rest =>
      if isOctal first then
        match rest with
        | second :: third :: others =>
            if isOctal second && isOctal third then
              (bytes? others).map (octalByte [first, second, third] :: ·)
            else if isOctal second then
              (bytes? (third :: others)).map (octalByte [first, second] :: ·)
            else (bytes? (second :: third :: others)).map (octalByte [first] :: ·)
        | [second] =>
            if isOctal second then some [octalByte [first, second]]
            else (bytes? [second]).map (octalByte [first] :: ·)
        | [] => some [octalByte [first]]
      else do
        return (← plainEscape? first) :: (← bytes? rest)
  | c :: rest =>
      if c = '\\' then none else (bytes? rest).map (Bytes.ofText (String.singleton c) ++ ·)

def integer? (type : FieldType) (text : List Char) : Option Int :=
  match type with
  | .int32 | .sint32 | .sfixed32 => signed? 32 text
  | .int64 | .sint64 | .sfixed64 => signed? 64 text
  | .uint32 | .fixed32 => unsigned? 32 text
  | .uint64 | .fixed64 => unsigned? 64 text
  | _ => none

def isScalar (type : FieldType) (text : List Char) : Bool :=
  match type with
  | .double | .float => (numeral? text).isSome
  | .bool => text = "true".toList || text = "false".toList
  | .string => true
  | .bytes => (bytes? text).isSome
  | .group | .message | .enum => false
  | type => (integer? type text).isSome

end BindingPress.DefaultValue
