import BindingPress.Text.ClusterClass

/-! Clusters: sequences of characters that are read as one, such as a letter with its accents, a
syllable in several parts or a picture that is joined from others. -/

namespace BindingPress.Text

/-- How far a cluster has come to joining a picture to the one that it ends with. -/
inductive PictureEnd where
  | none
  /-- A picture comes last, apart from what extends it. -/
  | picture
  /-- A joiner comes after that. -/
  | joined
deriving Repr, DecidableEq

/-- How far a cluster has come to writing a letter together with the one that it ends with. -/
inductive LetterEnd where
  | none
  /-- A consonant comes last, apart from what extends it. -/
  | consonant
  /-- A linker is among what extends it. -/
  | linked
deriving Repr, DecidableEq

namespace PictureEnd

def push (pictures : PictureEnd) (next : ClusterClass) : PictureEnd :=
  if next == .picture then picture
  else if pictures == picture && next == .joiner then joined
  else if pictures == picture && next.isExtending then picture
  else none

end PictureEnd

namespace LetterEnd

def push (letters : LetterEnd) : (next : ClusterClass) → LetterEnd
  | .consonant => consonant
  | .linker => if letters == none then none else linked
  | .extending | .joiner => letters
  | _ => none

end LetterEnd

structure ClusterEnd where
  last : ClusterClass
  pictures : PictureEnd
  letters : LetterEnd
  /-- Whether the letters of a flag at the end are odd in number. -/
  odd : Bool

namespace ClusterEnd

def push (cluster : ClusterEnd) (next : ClusterClass) : ClusterEnd where
  last := next
  pictures := cluster.pictures.push next
  letters := cluster.letters.push next
  odd := next == .flagLetter && !cluster.odd

def start (next : ClusterClass) : ClusterEnd :=
  push { last := .other, pictures := .none, letters := .none, odd := false } next

def accepts (cluster : ClusterEnd) (next : ClusterClass) : Bool :=
  match cluster.last, next with
  | .carriageReturn, .lineFeed => true
  | last, next =>
      if last.isControl || next.isControl then false
      else
        match last, next with
        | _, .extending | _, .linker | _, .nonJoiner | _, .joiner | _, .spacing => true
        | .leading, _ => true
        | .initial, .initial | .initial, .medial => true
        | .initial, .openSyllable | .initial, .closedSyllable => true
        | .openSyllable, .medial | .openSyllable, .final => true
        | .medial, .medial | .medial, .final => true
        | .closedSyllable, .final | .final, .final => true
        | _, .consonant => cluster.letters == .linked
        | _, .picture => cluster.pictures == .joined
        | .flagLetter, .flagLetter => cluster.odd
        | _, _ => false

end ClusterEnd

/-- The clusters of a text, the first of which already has the characters `current`, newest
first. -/
def clustersFrom (cluster : ClusterEnd) (current : List Char) : List Char → List (List Char)
  | [] => [current.reverse]
  | c :: rest =>
      let next := ClusterClass.ofChar c
      if cluster.accepts next then clustersFrom (cluster.push next) (c :: current) rest
      else current.reverse :: clustersFrom (.start next) [c] rest

def clusters : List Char → List (List Char)
  | [] => []
  | c :: rest => clustersFrom (.start (.ofChar c)) [c] rest

end BindingPress.Text
