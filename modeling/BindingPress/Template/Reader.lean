import BindingPress.Template.Expr
import BindingPress.Template.Whitespace

/-! Reading expressions and tags. A reader takes the text at hand and returns what it read with the
text that follows. -/

namespace BindingPress.Template

def isSpace (c : Char) : Bool :=
  c = ' ' || c = '\t' || c = '\r' || c = '\n'

def skipSpace (source : List Char) : List Char :=
  source.dropWhile isSpace

/-- Takes at least one white-space character. -/
def someSpace? : List Char → Option (List Char)
  | c :: rest => if isSpace c then some (skipSpace rest) else none
  | [] => none

def isNameStart (c : Char) : Bool :=
  c.isAlpha || c = '_'

def isNameChar (c : Char) : Bool :=
  c.isAlphanum || c = '_'

def name? : List Char → Option (String × List Char)
  | c :: rest =>
      if isNameStart c then
        some (String.ofList (c :: rest.takeWhile isNameChar), rest.dropWhile isNameChar)
      else none
  | [] => none

/-- A string literal: everything between two quotes of the same kind. -/
def literal? : List Char → Option (String × List Char)
  | quote :: rest =>
      if isQuote quote then
        match rest.dropWhile (· != quote) with
        | _ :: following => some (String.ofList (rest.takeWhile (· != quote)), following)
        | [] => none
      else none
  | [] => none

/-- Digits without a leading zero. -/
def whole? : List Char → Option (List Char × List Char)
  | '0' :: rest => some (['0'], rest)
  | source =>
      let digits := source.takeWhile Char.isDigit
      if digits = [] then none else some (digits, source.dropWhile Char.isDigit)

def sign : List Char → Bool × List Char
  | '-' :: rest => (true, rest)
  | source => (false, source)

def digitsValue (digits : List Char) : Nat :=
  digits.foldl (fun sum c => 10 * sum + (c.toNat - 48)) 0

def float? (source : List Char) : Option (Binary64 × List Char) := do
  let (negative, source) := sign source
  let (digits, source) ← whole? source
  match source with
  | '.' :: rest =>
      let places := rest.takeWhile Char.isDigit
      if places = [] then failure
      return (Binary64.ofDecimal negative (digitsValue (digits ++ places)) places.length,
        rest.dropWhile Char.isDigit)
  | _ => failure

def int? (source : List Char) : Option (Int × List Char) := do
  let (negative, source) := sign source
  let (digits, rest) ← whole? source
  let size := digitsValue digits
  return (if negative then -Int.ofNat size else Int.ofNat size, rest)

/-- The position between square brackets, as it is written. -/
def position? (source : List Char) : Option (List Char × List Char) := do
  let (negative, source) := sign source
  let (digits, rest) ← whole? source
  return (if negative then '-' :: digits else digits, rest)

def quoted? (source : List Char) : Option (List Char × List Char) :=
  match source, literal? source with
  | quote :: _, some (text, rest) => some (quote :: text.toList ++ [quote], rest)
  | _, _ => none

mutual

/-- What stands after an opening bracket, up to the closing one: a position, a quoted name or a
path. Each reader of this group passes on fewer steps than it was given. -/
def bracketed? : Nat → List Char → Option (List Char × List Char)
  | 0, _ => none
  | steps + 1, source => do
      let (content, rest) ←
        (position? source).orElse fun _ => (quoted? source).orElse fun _ => path? steps source
      match rest with
      | ']' :: rest => return (content ++ [']'], rest)
      | _ => failure

/-- The text of a path after its first name. Every step takes at least one character. -/
def pathEnd : Nat → List Char → List Char × List Char
  | 0, source => ([], source)
  | steps + 1, source =>
      match source with
      | '.' :: rest =>
          let name := rest.takeWhile isNameChar
          if name = [] then ([], source)
          else
            let (others, following) := pathEnd steps (rest.dropWhile isNameChar)
            ('.' :: name ++ others, following)
      | '[' :: rest =>
          match bracketed? steps rest with
          | some (content, rest) =>
              let (others, following) := pathEnd steps rest
              ('[' :: content ++ others, following)
          | none => ([], source)
      | _ => ([], source)

def path? : Nat → List Char → Option (List Char × List Char)
  | 0, _ => none
  | steps + 1, source => do
      let (first, rest) ← name? source
      let (others, following) := pathEnd steps rest
      return (first.toList ++ others, following)

end

/-- The words for true and false count wherever a name starts with one. -/
def truth? (source : List Char) : Option (Bool × List Char) :=
  let word (word : String) (value : Bool) :=
    (Text.stripPrefix? word.toList source).map fun rest => (value, rest)
  (word "true" true).orElse fun _ => (word "false" false).orElse fun _ =>
    (word "True" true).orElse fun _ => word "False" false

/-- Whole numbers have to fit 64 bits. -/
def fits (value : Int) : Bool :=
  -9223372036854775808 ≤ value && value < 9223372036854775808

/-- An operand other than a string literal. -/
def plainOperand? (steps : Nat) (source : List Char) : Option (Operand × List Char) :=
  match truth? source with
  | some (value, rest) => some (.bool value, rest)
  | none =>
      match path? steps source with
      | some (path, rest) => some (.path (String.ofList path), rest)
      | none =>
          match float? source with
          | some (value, rest) => some (.float value, rest)
          | none =>
              match int? source with
              | some (value, rest) => if fits value then some (.int value, rest) else none
              | none => none

def operand? (steps : Nat) (source : List Char) : Option (Operand × List Char) :=
  match literal? source with
  | some (value, rest) => some (.text value, rest)
  | none => plainOperand? steps source

/-- A word that has to be followed by white space. -/
def word? (word : String) (source : List Char) : Option (List Char) :=
  (Text.stripPrefix? word.toList source).bind someSpace?

def comparison? : List Char → Option (Comparison × List Char)
  | '=' :: '=' :: rest => some (.equal, rest)
  | '!' :: '=' :: rest => some (.unequal, rest)
  | _ => none

mutual

/-- A disjunction of conjunctions. Each reader of this group passes on fewer steps than it was
given; eight for every character suffice. -/
def expr? : Nat → List Char → Option (Expr × List Char)
  | 0, _ => none
  | steps + 1, source => do
      let (first, rest) ← conjunction? steps source
      return alternatives steps first rest

/-- The conjunctions that follow the word for a disjunction. -/
def alternatives : Nat → Expr → List Char → Expr × List Char
  | 0, first, source => (first, source)
  | steps + 1, first, source =>
      match (word? "or" (skipSpace source)).bind (conjunction? steps) with
      | some (next, rest) => alternatives steps (.either first next) rest
      | none => (first, source)

def conjunction? : Nat → List Char → Option (Expr × List Char)
  | 0, _ => none
  | steps + 1, source => do
      let (first, rest) ← condition? steps source
      return conjuncts steps first rest

/-- The conditions that follow the word for a conjunction. -/
def conjuncts : Nat → Expr → List Char → Expr × List Char
  | 0, first, source => (first, source)
  | steps + 1, first, source =>
      match (word? "and" (skipSpace source)).bind (condition? steps) with
      | some (next, rest) => conjuncts steps (.both first next) rest
      | none => (first, source)

/-- An operand or a comparison of two, perhaps negated. -/
def condition? : Nat → List Char → Option (Expr × List Char)
  | 0, _ => none
  | steps + 1, source => do
      let (negated, source) :=
        match word? "not" source with
        | some rest => (true, rest)
        | none => (false, source)
      let (operand, rest) ← operand? steps source
      let (filters, rest) := filters steps rest
      let alone := (Expr.value negated operand filters, rest)
      match comparison? (skipSpace rest) with
      | none => return alone
      | some (comparison, following) =>
          match filtered? steps (skipSpace following) with
          | none => return alone
          | some (right, following) =>
              return (.compare negated comparison (.value false operand filters) right, following)

def filtered? : Nat → List Char → Option (Expr × List Char)
  | 0, _ => none
  | steps + 1, source => do
      let (operand, rest) ← operand? steps source
      let (filters, rest) := filters steps rest
      return (.value false operand filters, rest)

def filters : Nat → List Char → List Filter × List Char
  | 0, source => ([], source)
  | steps + 1, source =>
      match skipSpace source with
      | '|' :: rest =>
          match name? (skipSpace rest) with
          | some (name, rest) =>
              let (arguments, rest) :=
                match arguments? steps rest with
                | some found => found
                | none => ([], rest)
              let (others, following) := filters steps rest
              (.call name arguments :: others, following)
          | none => ([], source)
      | _ => ([], source)

def arguments? : Nat → List Char → Option (List Argument × List Char)
  | 0, _ => none
  | steps + 1, source =>
      match skipSpace source with
      | '(' :: rest =>
          match skipSpace rest with
          | ')' :: rest => some ([], rest)
          | rest => moreArguments? steps rest
      | _ => none

/-- One or more arguments and the closing parenthesis; a comma may stand before it. -/
def moreArguments? : Nat → List Char → Option (List Argument × List Char)
  | 0, _ => none
  | steps + 1, source => do
      let (name, rest) ← name? source
      match skipSpace rest with
      | '=' :: rest =>
          let (value, rest) ← expr? steps (skipSpace rest)
          match skipSpace rest with
          | ')' :: rest => return ([.mk name value], rest)
          | ',' :: rest =>
              match skipSpace rest with
              | ')' :: rest => return ([.mk name value], rest)
              | rest =>
                  let (others, following) ← moreArguments? steps rest
                  return (.mk name value :: others, following)
          | _ => failure
      | _ => failure

end

/-- The steps that reading an expression of so many characters takes at most. -/
def stepsFor (size : Nat) : Nat :=
  8 * size + 8

def expression? (size : Nat) (source : List Char) : Option (Expr × List Char) :=
  expr? (stepsFor size) source

/-- What a loop runs over: an operand with filters, but not a string literal. -/
def container? (size : Nat) (source : List Char) : Option (Expr × List Char) := do
  let (operand, rest) ← plainOperand? (stepsFor size) source
  let (filters, rest) := filters (stepsFor size) rest
  return (.value false operand filters, rest)

/-- The content of a statement or expression tag. -/
inductive Tag where
  | output (expr : Expr)
  | comment
  | assign (name : String) (expr : Expr)
  | inclusion (template : String)
  | openBranch (condition : Expr)
  | elseIf (condition : Expr)
  | otherwise
  | closeBranch
  | openLoop (names : LoopNames) (container : Expr)
  | closeLoop
  | openRaw
  | closeRaw

/-- A tag with its dashes: whether the text before it and the text after it lose the white space
that touches the tag. -/
structure DashedTag where
  left : Bool
  tag : Tag
  right : Bool

def dash : List Char → Bool × List Char
  | '-' :: rest => (true, rest)
  | source => (false, source)

def tagEnd? (kind : TagKind) (source : List Char) : Option (Bool × List Char) :=
  match dash source with
  | (right, mark :: brace :: rest) =>
      if mark = kind.closeMark && brace = closeBrace then some (right, rest) else none
  | _ => none

def loopNames? (source : List Char) : Option (LoopNames × List Char) := do
  let (first, rest) ← name? source
  match rest with
  | ',' :: rest =>
      let (second, rest) ← name? (skipSpace rest)
      return (⟨some first, second⟩, rest)
  | _ => return (⟨none, first⟩, rest)

def loop? (size : Nat) (source : List Char) : Option (Tag × List Char) := do
  let (names, rest) ← loopNames? (← someSpace? source)
  let rest ← word? "in" (← someSpace? rest)
  let (container, rest) ← container? size rest
  return (.openLoop names container, rest)

def assignment? (size : Nat) (source : List Char) : Option (Tag × List Char) := do
  let (name, rest) ← name? (← someSpace? source)
  match skipSpace rest with
  | '=' :: rest =>
      let (expr, rest) ← expression? size (skipSpace rest)
      return (.assign name expr, rest)
  | _ => failure

/-- A statement after its opening and dash, without its closing. -/
def statement? (size : Nat) (source : List Char) : Option (Tag × List Char) := do
  let (keyword, rest) ← name? (skipSpace source)
  match keyword with
  | "if" => return (← expression? size (← someSpace? rest)).map .openBranch id
  | "elif" => return (← expression? size (← someSpace? rest)).map .elseIf id
  | "else" => return (.otherwise, rest)
  | "endif" => return (.closeBranch, rest)
  | "for" => loop? size rest
  | "endfor" => return (.closeLoop, rest)
  | "set" => assignment? size rest
  | "include" => return (← literal? (← someSpace? rest)).map .inclusion id
  | "raw" => return (.openRaw, rest)
  | "endraw" => return (.closeRaw, rest)
  | _ => failure

def statementTag? (size : Nat) (source : List Char) : Option (DashedTag × List Char) := do
  let (left, source) := dash source
  let (tag, rest) ← statement? size source
  let (right, rest) ← tagEnd? .statement (skipSpace rest)
  return (⟨left, tag, right⟩, rest)

def outputTag? (size : Nat) (source : List Char) : Option (DashedTag × List Char) := do
  let (left, source) := dash source
  let (expr, rest) ← expression? size (skipSpace source)
  let (right, rest) ← tagEnd? .expression (skipSpace rest)
  return (⟨left, .output expr, right⟩, rest)

/-- The end of a comment, which is where its closing first occurs. -/
def commentEnd? : List Char → Option (Bool × List Char)
  | [] => none
  | c :: rest =>
      match tagEnd? .comment (c :: rest) with
      | some found => some found
      | none => commentEnd? rest

/-- A comment has at least one character. -/
def commentTag? (source : List Char) : Option (DashedTag × List Char) := do
  let (left, source) := dash source
  if (tagEnd? .comment source).isSome then failure
  let (right, rest) ← commentEnd? source
  return (⟨left, .comment, right⟩, rest)

/-- A tag after its opening, at the start of a source of at most `size` characters. -/
def tag? (size : Nat) : TagKind → List Char → Option (DashedTag × List Char)
  | .statement => statementTag? size
  | .expression => outputTag? size
  | .comment => commentTag?

/-- The tag that ends raw text, if it stands here. -/
def rawEnd? (size : Nat) : List Char → Option (DashedTag × List Char)
  | '\x7b' :: '%' :: rest =>
      match statementTag? size rest with
      | some (⟨left, .closeRaw, right⟩, rest) => some (⟨left, .closeRaw, right⟩, rest)
      | _ => none
  | _ => none

def rawText? (size : Nat) : List Char → Option (List Char × DashedTag × List Char)
  | [] => none
  | c :: rest =>
      match rawEnd? size (c :: rest) with
      | some (tag, following) => some ([], tag, following)
      | none => (rawText? size rest).map fun (text, tag, following) => (c :: text, tag, following)

inductive Piece where
  | text (text : List Char)
  | raw (opening : DashedTag) (text : List Char) (closing : DashedTag)
  | tag (tag : DashedTag)

/-- Cuts a source into pieces; fails at a tag that cannot be read. Every step takes a character at
least, so that the steps left are no fewer than the characters left. -/
def piecesWithin? : (steps : Nat) → List Char → Option (List Piece)
  | 0, source => if source = [] then some [] else none
  | steps + 1, source =>
      match openTag? source with
      | none => some [.text source]
      | some (text, kind, body) => do
          let (tag, rest) ← tag? steps kind body
          match tag with
          | ⟨left, .openRaw, right⟩ =>
              let (raw, closing, rest) ← rawText? steps rest
              return .text text :: .raw ⟨left, .openRaw, right⟩ raw closing ::
                (← piecesWithin? steps rest)
          | ⟨_, .closeRaw, _⟩ => failure
          | tag => return .text text :: .tag tag :: (← piecesWithin? steps rest)

def pieces? (source : List Char) : Option (List Piece) :=
  piecesWithin? (source.length + 1) source

end BindingPress.Template
