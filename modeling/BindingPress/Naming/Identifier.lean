import BindingPress.Naming.Token

/-! Names in the styles of the target languages. -/

namespace BindingPress.Naming

/-- A name as it was declared, with its tokens. -/
structure Identifier where
  raw : String
  tokens : List Token
deriving Repr, DecidableEq

def capitalize : List Char → List Char
  | [] => []
  | c :: rest => Text.upperChar c ++ rest

/-- A token inside a camel-case name: words start with a capital, all else is kept. -/
def Token.camel : Token → List Char
  | .word text => capitalize text.toList
  | token => token.text

/-- The tokens in one style, with an underscore between two of them unless one is a symbol. -/
def snake (style : List Char → List Char) : List Token → List Char
  | [] => []
  | [token] => style token.text
  | token :: next :: rest =>
      let joint := if token.isSymbol || next.isSymbol then [] else ['_']
      style token.text ++ joint ++ snake style (next :: rest)

namespace Identifier

def parse (raw : String) (initialisms : Initialisms) : Identifier :=
  ⟨raw, Naming.tokens initialisms raw.toList⟩

def upperCamel (name : Identifier) : String :=
  String.ofList (name.tokens.flatMap Token.camel)

def lowerCamel (name : Identifier) : String :=
  match name.tokens with
  | [] => ""
  | first :: rest => String.ofList (Text.lower first.text ++ rest.flatMap Token.camel)

def lowerSnake (name : Identifier) : String :=
  String.ofList (snake Text.lower name.tokens)

def upperSnake (name : Identifier) : String :=
  String.ofList (snake Text.upper name.tokens)

end Identifier
end BindingPress.Naming
