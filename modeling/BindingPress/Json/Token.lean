import BindingPress.Decimal.Binary64

/-! The lexical level of JSON. A string keeps its escapes as code units until it is known whether
they name characters, and of a number it only matters whether it is finite. -/

namespace BindingPress.Json

/-- One element of a string: a character as written, or the code unit of a `\u` escape. -/
inductive StringUnit where
  | char (c : Char)
  | code (value : Nat)
deriving Repr, DecidableEq

inductive Token where
  | openObject | closeObject | openArray | closeArray | colon | comma
  | null | true | false
  /-- A string; absent when an escape names half of a surrogate pair alone. -/
  | text (value : Option String)
  /-- A number; `finite` unless it is too large for a 64-bit floating-point value. -/
  | number (finite : Bool)
deriving Repr, DecidableEq

def isSpace (c : Char) : Bool :=
  c = ' ' || c = '\t' || c = '\n' || c = '\r'

def hexValue? (c : Char) : Option Nat :=
  if '0' ≤ c ∧ c ≤ '9' then some (c.toNat - 48)
  else if 'a' ≤ c ∧ c ≤ 'f' then some (c.toNat - 87)
  else if 'A' ≤ c ∧ c ≤ 'F' then some (c.toNat - 55)
  else none

def codeUnit? (digits : List Char) : Option Nat :=
  digits.foldl (fun sum c => do return 16 * (← sum) + (← hexValue? c)) (some 0)

def escaped? : Char → Option Char
  | '\x22' => some '\x22'
  | '\\' => some '\\'
  | '/' => some '/'
  | 'b' => some '\x08'
  | 'f' => some '\x0c'
  | 'n' => some '\n'
  | 'r' => some '\r'
  | 't' => some '\t'
  | _ => none

/-- The units of a string up to its closing quote, and the text after that quote. Control
characters have to be escaped. -/
def stringUnits? : List Char → Option (List StringUnit × List Char)
  | [] => none
  | '\x22' :: rest => some ([], rest)
  | '\\' :: 'u' :: a :: b :: c :: d :: rest => do
      let value ← codeUnit? [a, b, c, d]
      let (units, following) ← stringUnits? rest
      return (.code value :: units, following)
  | '\\' :: c :: rest => do
      let value ← escaped? c
      let (units, following) ← stringUnits? rest
      return (.char value :: units, following)
  | c :: rest => do
      if c = '\\' || c.toNat < 32 then failure
      let (units, following) ← stringUnits? rest
      return (.char c :: units, following)

def isHighSurrogate (value : Nat) : Bool :=
  0xD800 ≤ value && value < 0xDC00

def isLowSurrogate (value : Nat) : Bool :=
  0xDC00 ≤ value && value < 0xE000

/-- Joins surrogate pairs; fails when one half stands alone. -/
def unitsText? : List StringUnit → Option (List Char)
  | [] => some []
  | .char c :: rest => (unitsText? rest).map (c :: ·)
  | .code high :: .code low :: rest =>
      if isHighSurrogate high && isLowSurrogate low then
        (unitsText? rest).map
          (Char.ofNat (0x10000 + (high - 0xD800) * 0x400 + (low - 0xDC00)) :: ·)
      else if isHighSurrogate high || isLowSurrogate high then none
      else (unitsText? (.code low :: rest)).map (Char.ofNat high :: ·)
  | .code value :: rest =>
      if isHighSurrogate value || isLowSurrogate value then none
      else (unitsText? rest).map (Char.ofNat value :: ·)

def digitsValue (digits : List Char) : Nat :=
  digits.foldl (fun sum c => 10 * sum + (c.toNat - 48)) 0

/-- Puts digits at the end of a number as long as it stays within 64 bits: the number, and the
digits that are left. -/
def appendDigits (number : Nat) : List Char → Nat × List Char
  | [] => (number, [])
  | digit :: rest =>
      let longer := 10 * number + (digit.toNat - 48)
      if longer < 18446744073709551616 then appendDigits longer rest else (number, digit :: rest)

/-- Whether `significand` times ten to the power `exponent` is finite, when both factors and then
their product are rounded. A negative power never leads to infinity, and ten to a power over 308 is
infinite by itself. -/
def isFinite (significand : Nat) (exponent : Int) : Bool :=
  if significand = 0 || exponent < 0 then true
  else if 308 < exponent then false
  else
    let factor := Binary64.ofInt (Int.ofNat (Nat.pow 10 exponent.toNat))
    ((Binary64.ofInt significand).product factor).isFinite

/-- Whether a number with these digits and exponent is finite. Of the digits only the leading ones
that fit 64 bits count; whole digits beyond these raise the exponent. -/
def isFiniteDecimal (whole decimals : List Char) (exponent : Int) : Bool :=
  let (significand, dropped) := appendDigits 0 whole
  let (significand, unused) := appendDigits significand decimals
  isFinite significand (exponent + dropped.length - (decimals.length - unused.length))

def fraction? : List Char → Option (List Char × List Char)
  | '.' :: rest =>
      let digits := rest.takeWhile Char.isDigit
      if digits = [] then none else some (digits, rest.dropWhile Char.isDigit)
  | rest => some ([], rest)

def exponentDigits? (rest : List Char) : Option (Int × List Char) :=
  let digits := rest.takeWhile Char.isDigit
  if digits = [] then none
  else some (Int.ofNat (digitsValue digits), rest.dropWhile Char.isDigit)

def exponent? : List Char → Option (Int × List Char)
  | c :: rest =>
      if c = 'e' || c = 'E' then
        match rest with
        | '+' :: rest => exponentDigits? rest
        | '-' :: rest => (exponentDigits? rest).map fun (value, rest) => (-value, rest)
        | rest => exponentDigits? rest
      else some (0, c :: rest)
  | [] => some (0, [])

/-- Reads a number after its sign. A leading zero stands alone. -/
def number? (text : List Char) : Option (Token × List Char) := do
  let whole :=
    match text with
    | '0' :: _ => ['0']
    | _ => text.takeWhile Char.isDigit
  if whole = [] then failure
  let (decimals, rest) ← fraction? (text.drop whole.length)
  let (exponent, rest) ← exponent? rest
  return (.number (isFiniteDecimal whole decimals exponent), rest)

/-- The first token of a text without leading white space, and the text after it. -/
def token? : List Char → Option (Token × List Char)
  | '\x7b' :: rest => some (.openObject, rest)
  | '\x7d' :: rest => some (.closeObject, rest)
  | '[' :: rest => some (.openArray, rest)
  | ']' :: rest => some (.closeArray, rest)
  | ':' :: rest => some (.colon, rest)
  | ',' :: rest => some (.comma, rest)
  | 'n' :: 'u' :: 'l' :: 'l' :: rest => some (.null, rest)
  | 't' :: 'r' :: 'u' :: 'e' :: rest => some (.true, rest)
  | 'f' :: 'a' :: 'l' :: 's' :: 'e' :: rest => some (.false, rest)
  | '\x22' :: rest => do
      let (units, following) ← stringUnits? rest
      return (.text ((unitsText? units).map String.ofList), following)
  | '-' :: rest => number? rest
  | text => number? text

/-- The tokens of a text. Every token takes at least one character, so as many steps as there are
characters suffice. -/
def tokensWithin? : Nat → List Char → Option (List Token)
  | 0, text => if text.all isSpace then some [] else none
  | steps + 1, text =>
      match text.dropWhile isSpace with
      | [] => some []
      | c :: rest => do
          let (token, following) ← token? (c :: rest)
          return token :: (← tokensWithin? steps following)

def tokens? (text : List Char) : Option (List Token) :=
  tokensWithin? text.length text

end BindingPress.Json
