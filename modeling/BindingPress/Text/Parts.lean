/-! Cutting a text at a character, and replacing every occurrence of a pattern. -/

namespace BindingPress.Text

/-- The parts between the occurrences of a separator; there is always one more part than
separators. -/
def split (separator : Char) : List Char → List (List Char)
  | [] => [[]]
  | c :: rest =>
      if c = separator then [] :: split separator rest
      else
        match split separator rest with
        | [] => [[c]]
        | part :: parts => (c :: part) :: parts

/-- What follows the last occurrence of a separator, or the whole text. -/
def afterLast (separator : Char) (text : List Char) : List Char :=
  (text.reverse.takeWhile (· != separator)).reverse

/-- What precedes the last occurrence of a separator, or nothing. -/
def beforeLast (separator : Char) (text : List Char) : List Char :=
  (text.reverse.dropWhile (· != separator)).tail.reverse

/-- What precedes the first occurrence of a separator, or the whole text. -/
def beforeFirst (separator : Char) (text : List Char) : List Char :=
  text.takeWhile (· != separator)

def endsWith (ending text : List Char) : Bool :=
  ending.isSuffixOf text

/-- What is left of a text once the given beginning is taken off, if it begins that way. -/
def stripPrefix? : List Char → List Char → Option (List Char)
  | [], text => some text
  | _ :: _, [] => none
  | p :: beginning, c :: text => if p = c then stripPrefix? beginning text else none

/-- Replaces every occurrence of the pattern `head :: tail`, found from left to right. -/
def replace (head : Char) (tail replacement : List Char) : List Char → List Char
  | [] => []
  | c :: rest =>
      if (head :: tail).isPrefixOf (c :: rest) then
        replacement ++ replace head tail replacement (rest.drop tail.length)
      else c :: replace head tail replacement rest
termination_by text => text.length
decreasing_by
  · simp only [List.length_drop, List.length_cons]
    omega
  · simp only [List.length_cons]
    omega

end BindingPress.Text
