import BindingPress.Text.Parts
import BindingPress.Text.Span

/-! White space, and the operations on text that look at nothing else: trimming and cutting into
lines. -/

namespace BindingPress.Text

/-- The white-space code points from 128 on. -/
def blankSpans : List Span := [
  ⟨0x85, 0x85, 1⟩, ⟨0xA0, 0xA0, 1⟩, ⟨0x1680, 0x1680, 1⟩, ⟨0x2000, 0x200A, 1⟩, ⟨0x2028, 0x2029, 1⟩,
  ⟨0x202F, 0x202F, 1⟩, ⟨0x205F, 0x205F, 1⟩, ⟨0x3000, 0x3000, 1⟩]

def isBlank (c : Char) : Bool :=
  if c.toNat < 128 then c = ' ' || (9 ≤ c.toNat && c.toNat ≤ 13) else inSpans blankSpans c

def trimStart (text : List Char) : List Char :=
  text.dropWhile isBlank

/-- Drops the longest run at the end of the text whose characters all satisfy `p`. -/
def dropEndWhile (p : Char → Bool) (text : List Char) : List Char :=
  (text.reverse.dropWhile p).reverse

def trimEnd (text : List Char) : List Char :=
  dropEndWhile isBlank text

def trim (text : List Char) : List Char :=
  trimEnd (trimStart text)

def dropCarriageReturn (line : List Char) : List Char :=
  if line.getLast? = some '\r' then line.dropLast else line

/-- The lines of a text. A line ends with a newline, and a carriage return before that newline is
part of the line end; what follows the last newline is a line of its own unless it is empty. -/
def lines (text : List Char) : List (List Char) :=
  let parts := split '\n' text
  parts.dropLast.map dropCarriageReturn ++ parts.getLast?.toList.filter (· != [])

end BindingPress.Text
