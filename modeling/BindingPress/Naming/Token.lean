import BindingPress.Naming.Initialisms
import BindingPress.Text.Alphabetic
import BindingPress.Text.Numeric

/-! The parts of a name. A name is cut at separators and other marks into runs of letters and
digits, a run is cut where its case changes, and the pieces are grouped into words and
initialisms. -/

namespace BindingPress.Naming

inductive Token where
  /-- An ordinary word, in lower case. -/
  | word (text : String)
  /-- A word that is written in capitals. -/
  | initialism (text : String)
  /-- A mark that is neither a letter, a digit nor a separator. -/
  | symbol (mark : Char)
deriving Repr, DecidableEq

namespace Token

def text : Token → List Char
  | word text => text.toList
  | initialism text => text.toList
  | symbol mark => [mark]

def isSymbol : Token → Bool
  | symbol _ => true
  | _ => false

end Token

/-- A part of a name as it is spelled there. -/
inductive Segment where
  | word (piece : List Char)
  | initialism (piece : List Char)
  | symbol (mark : Char)
deriving Repr, DecidableEq

namespace Segment

def chars : Segment → List Char
  | word piece => piece
  | initialism piece => piece
  | symbol mark => [mark]

def token : Segment → Token
  | word piece => .word (String.ofList (Text.lower piece))
  | initialism piece => .initialism (String.ofList (Text.upper piece))
  | symbol mark => .symbol mark

end Segment

def isAlphanumeric (c : Char) : Bool :=
  Text.isAlphabetic c || Text.isNumeric c

def isSeparator (c : Char) : Bool :=
  c = '_' || c = '-' || Text.isBlank c

/-- Whether a new piece starts at `current`, between `previous` and, if there is one, `next`: a
capital after a small letter or a digit, or the last capital of several before a small letter. -/
def startsPiece (previous current : Char) (next : Option Char) : Bool :=
  Text.isUppercase current &&
    (Text.isLowercase previous || Text.isNumeric previous ||
      (Text.isUppercase previous && next.any Text.isLowercase))

/-- Cuts a run where its case changes. -/
def casePieces : List Char → List (List Char)
  | [] => []
  | [c] => [[c]]
  | previous :: current :: rest =>
      let pieces := casePieces (current :: rest)
      if startsPiece previous current rest.head? then [previous] :: pieces
      else
        match pieces with
        | [] => [[previous]]
        | piece :: others => (previous :: piece) :: others

/-- The longest sequence of leading pieces that, after `joined`, spells an initialism, and the
pieces after it. -/
def longestInitialism (initialisms : Initialisms) (joined : List Char) :
    List (List Char) → Option (List Char × List (List Char))
  | [] => none
  | piece :: rest =>
      if initialisms.haveStart (joined ++ piece) then
        match longestInitialism initialisms (joined ++ piece) rest with
        | some found => some found
        | none =>
            if initialisms.contains (joined ++ piece) then some (joined ++ piece, rest) else none
      else none

theorem longestInitialism_shorter {initialisms : Initialisms} {joined found : List Char}
    {pieces rest : List (List Char)}
    (matched : longestInitialism initialisms joined pieces = some (found, rest)) :
    rest.length < pieces.length := by
  induction pieces generalizing joined with
  | nil => simp [longestInitialism] at matched
  | cons piece pieces ih =>
      rw [longestInitialism] at matched
      split at matched
      · split at matched
        next longer deeper =>
          cases matched
          have bound := ih deeper
          simp only [List.length_cons]
          omega
        next =>
          split at matched
          · cases matched
            simp
          · contradiction
      · contradiction

abbrev Cut := List (List Char)

/-- The cut of `taken` and the characters after it whose first part is the longest initialism that
has more characters than `taken`. `cuts` holds the cuts of what follows each of the characters. -/
def longestFirst (initialisms : Initialisms) (taken : List Char) :
    List Char → (cuts : List (Option Cut)) → Option Cut
  | c :: rest, cut :: cuts =>
      if initialisms.haveStart (taken ++ [c]) then
        match longestFirst initialisms (taken ++ [c]) rest cuts with
        | some found => some found
        | none =>
            if initialisms.contains (taken ++ [c]) then cut.map ((taken ++ [c]) :: ·) else none
      else none
  | _, _ => none

/-- The cuts of a piece and of all its ends into initialisms, the whole piece first. -/
def initialismCuts (initialisms : Initialisms) : List Char → List (Option Cut)
  | [] => [some []]
  | c :: rest =>
      let cuts := initialismCuts initialisms rest
      longestFirst initialisms [] (c :: rest) cuts :: cuts

/-- Cuts a piece into initialisms, if it consists of nothing else. Of all ways to do so this is
the one whose parts are longest from the left. -/
def splitInitialisms (initialisms : Initialisms) (piece : List Char) : Option Cut :=
  match initialismCuts initialisms piece with
  | cut :: _ => cut
  | [] => none

def pieceSegments (initialisms : Initialisms) (pieces : List (List Char)) : List Segment :=
  match pieces with
  | [] => []
  | piece :: rest =>
      match _matched : longestInitialism initialisms [] (piece :: rest) with
      | some (found, following) =>
          Segment.initialism found :: pieceSegments initialisms following
      | none =>
          match splitInitialisms initialisms piece with
          | some parts => parts.map Segment.initialism ++ pieceSegments initialisms rest
          | none => Segment.word piece :: pieceSegments initialisms rest
termination_by pieces.length
decreasing_by
  · exact longestInitialism_shorter _matched
  · simp
  · simp

def runSegments (initialisms : Initialisms) (run : List Char) : List Segment :=
  pieceSegments initialisms (casePieces run)

/-- Cuts a name into its parts and drops the separators. -/
def segments (initialisms : Initialisms) (name : List Char) : List Segment :=
  match name with
  | [] => []
  | c :: rest =>
      if isAlphanumeric c then
        runSegments initialisms (c :: rest.takeWhile isAlphanumeric) ++
          segments initialisms (rest.dropWhile isAlphanumeric)
      else if isSeparator c then segments initialisms rest
      else Segment.symbol c :: segments initialisms rest
termination_by name.length
decreasing_by
  · have shorter := (List.dropWhile_sublist (l := rest) isAlphanumeric).length_le
    simp only [List.length_cons]
    omega
  · simp
  · simp

def tokens (initialisms : Initialisms) (name : List Char) : List Token :=
  (segments initialisms name).map Segment.token

end BindingPress.Naming
