import BindingPress.Text.Blank

/-! White space around block tags. A source is first cut into text and tags; then the text before a
block tag may lose its indentation, and the text after one its line end. -/

namespace BindingPress.Template

inductive TagKind where
  | statement
  | comment
  | expression
deriving Repr, DecidableEq

namespace TagKind

/-- The character after the brace that opens a tag, which also stands before the brace that closes
it, except that an expression is closed by two braces. -/
def openMark : TagKind → Char
  | statement => '%'
  | comment => '#'
  | expression => '\x7b'

def closeMark : TagKind → Char
  | statement => '%'
  | comment => '#'
  | expression => '\x7d'

def ofMark? (mark : Char) : Option TagKind :=
  [statement, comment, expression].find? fun kind => kind.openMark == mark

/-- Statements and comments are blocks; expressions stand in the running text. -/
def isBlock : TagKind → Bool
  | expression => false
  | _ => true

/-- Whether a closing mark inside a string literal does not count. -/
def hasLiterals : TagKind → Bool
  | comment => false
  | _ => true

end TagKind

def openBrace : Char := '\x7b'

def closeBrace : Char := '\x7d'

def isQuote (c : Char) : Bool :=
  c = '\x22' || c = '\x27' || c = '\x60'

/-- The kind of the tag whose opening a text starts with, and what follows the opening. -/
def opening? : List Char → Option (TagKind × List Char)
  | c :: mark :: body =>
      if c = openBrace then (TagKind.ofMark? mark).map fun kind => (kind, body) else none
  | _ => none

/-- The text before the first opening of a tag, the kind of the tag, and what follows the
opening. -/
def openTag? : List Char → Option (List Char × TagKind × List Char)
  | [] => none
  | c :: rest =>
      match opening? (c :: rest) with
      | some (kind, body) => some ([], kind, body)
      | none => (openTag? rest).map fun (text, kind, body) => (c :: text, kind, body)

/-- The rest of a tag up to and with its closing, and what follows it. `quote` is the quote that
ends the string literal at hand, if there is one. -/
def closeTag? (kind : TagKind) (quote : Option Char) : List Char → Option (List Char × List Char)
  | [] => none
  | c :: rest =>
      let goOn (quote : Option Char) :=
        (closeTag? kind quote rest).map fun (body, following) => (c :: body, following)
      match quote with
      | some mark => goOn (if c = mark then none else some mark)
      | none =>
          if kind.hasLiterals && isQuote c then goOn (some c)
          else
            match rest with
            | next :: following =>
                if c = kind.closeMark && next = closeBrace then some ([c, next], following)
                else goOn none
            | [] => none

/-- A whole tag at the start of a text that begins with its opening. -/
def tagText (kind : TagKind) (body : List Char) : List Char :=
  openBrace :: kind.openMark :: body

/-- A source as text and tags in turn. The last tag may lack its closing. -/
inductive Scan where
  | text (text : List Char)
  | unclosed (text : List Char) (kind : TagKind) (tail : List Char)
  | tag (text : List Char) (kind : TagKind) (tag : List Char) (rest : Scan)
deriving Repr, DecidableEq

theorem opening?_shorter {source body : List Char} {kind : TagKind}
    (opened : opening? source = some (kind, body)) : body.length < source.length := by
  rw [opening?.eq_def] at opened
  split at opened
  next c mark body' =>
    split at opened
    · obtain ⟨found, _, same⟩ := Option.map_eq_some_iff.1 opened
      cases same
      simp only [List.length_cons]
      omega
    · contradiction
  next => contradiction

theorem openTag?_shorter {source text body : List Char} {kind : TagKind}
    (opened : openTag? source = some (text, kind, body)) : body.length < source.length := by
  induction source generalizing text with
  | nil => simp [openTag?] at opened
  | cons c rest ih =>
      rw [openTag?] at opened
      split at opened
      next kind' body' found =>
        cases opened
        exact opening?_shorter found
      next =>
        obtain ⟨⟨inner, innerKind, innerBody⟩, deeper, same⟩ := Option.map_eq_some_iff.1 opened
        cases same
        have bound := ih deeper
        simp only [List.length_cons]
        omega

theorem closeTag?_shorter {kind : TagKind} {quote : Option Char}
    {source body following : List Char}
    (closed : closeTag? kind quote source = some (body, following)) :
    following.length < source.length := by
  induction source generalizing quote body with
  | nil => simp [closeTag?] at closed
  | cons c rest ih =>
      have later : ∀ quote', (closeTag? kind quote' rest).map
          (fun (body, following) => (c :: body, following)) = some (body, following) →
          following.length < (c :: rest).length := by
        intro quote' found
        obtain ⟨⟨inner, innerRest⟩, deeper, same⟩ := Option.map_eq_some_iff.1 found
        cases same
        have bound := ih deeper
        simp only [List.length_cons]
        omega
      rw [closeTag?.eq_def] at closed
      simp only at closed
      split at closed
      next => exact later _ closed
      next =>
        split at closed
        next => exact later _ closed
        next =>
          split at closed
          next next' following' =>
            split at closed
            · cases closed
              simp only [List.length_cons]
              omega
            · exact later _ closed
          next => contradiction

def scan (source : List Char) : Scan :=
  match _opened : openTag? source with
  | none => .text source
  | some (text, kind, body) =>
      match _closed : closeTag? kind none body with
      | none => .unclosed text kind (tagText kind body)
      | some (inner, rest) => .tag text kind (tagText kind inner) (scan rest)
termination_by source.length
decreasing_by
  exact Nat.lt_trans (closeTag?_shorter _closed) (openTag?_shorter _opened)

structure WhitespaceControl where
  lstripBlocks : Bool := false
  trimBlocks : Bool := false
deriving Repr, DecidableEq

def isIndentation (c : Char) : Bool :=
  c = ' ' || c = '\t'

/-- Drops the blanks before a tag that stands first on its line. When the text is nothing but
blanks it starts a line only if it starts the source. -/
def stripIndentation (atStart : Bool) (text : List Char) : List Char :=
  let kept := Text.dropEndWhile isIndentation text
  let startsLine := if kept = [] then atStart else kept.getLast? == some '\n'
  if startsLine then kept else text

def dropLineEnd : List Char → List Char
  | '\r' :: '\n' :: rest => rest
  | '\n' :: rest => rest
  | rest => rest

namespace WhitespaceControl

/-- A text after a block tag, or not. -/
def trimmed (control : WhitespaceControl) (afterBlock : Bool) (text : List Char) : List Char :=
  if control.trimBlocks && afterBlock then dropLineEnd text else text

/-- A text before a tag. -/
def stripped (control : WhitespaceControl) (atStart : Bool) (kind : TagKind)
    (text : List Char) : List Char :=
  if control.lstripBlocks && kind.isBlock then stripIndentation atStart text else text

/-- Puts a source together again, with the text at the start of the source or not and after a block
tag or not. -/
def adjust (control : WhitespaceControl) (atStart afterBlock : Bool) : Scan → List Char
  | .text text => control.trimmed afterBlock text
  | .unclosed text kind tail =>
      control.stripped atStart kind (control.trimmed afterBlock text) ++ tail
  | .tag text kind tag rest =>
      control.stripped atStart kind (control.trimmed afterBlock text) ++ tag ++
        control.adjust false kind.isBlock rest

def apply (control : WhitespaceControl) (source : List Char) : List Char :=
  control.adjust true false (scan source)

end WhitespaceControl
end BindingPress.Template
