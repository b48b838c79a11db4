import BindingPress.Text.Blank
import BindingPress.Text.CaseMap

/-! The words that a binding writes in capitals, such as `GPS` or `ID`. -/

namespace BindingPress.Naming

/-- A set of upper-case words, kept in increasing order without repetition. -/
structure Initialisms where
  words : List String := []
deriving Repr, DecidableEq

namespace Initialisms

def insertWord (word : String) : List String → List String
  | [] => [word]
  | first :: rest =>
      if word = first then first :: rest
      else if word < first then word :: first :: rest
      else first :: insertWord word rest

def insert (initialisms : Initialisms) (word : String) : Initialisms :=
  ⟨insertWord word initialisms.words⟩

/-- Entries count without surrounding white space and in upper case; empty ones do not count. -/
def ofList (entries : List String) : Initialisms :=
  let words := entries.map fun entry => Text.upper (Text.trim entry.toList)
  (words.filter (· != [])).foldl (fun set word => set.insert (String.ofList word)) {}

/-- Reads a word list: one word a line, where blank lines and lines that start with `#` are
passed over. -/
def parse (text : String) : Initialisms :=
  let entries := (Text.lines text.toList).map Text.trim
  ofList ((entries.filter fun entry => entry != [] && entry.head? != some '#').map String.ofList)

/-- Membership without regard to case. -/
def contains (initialisms : Initialisms) (word : List Char) : Bool :=
  initialisms.words.contains (String.ofList (Text.upper word))

/-- Whether some initialism starts with `word`, without regard to case. Upper case is taken one
character at a time, so a word for which this fails cannot be continued to an initialism. -/
def haveStart (initialisms : Initialisms) (word : List Char) : Bool :=
  let spelled := Text.upper word
  initialisms.words.any fun initialism => spelled.isPrefixOf initialism.toList

end Initialisms
end BindingPress.Naming
